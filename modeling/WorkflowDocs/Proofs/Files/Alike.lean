import WorkflowDocs.Proofs.Files.Change

/-!
# Trees that are alike

Two trees that differ in a log file and in the text of one more file. No walk can tell them apart,
so every operation on other files succeeds in both or in neither, and leaves them alike.

Results:
1. `Alike.locate`: paths name the same places in both trees.
2. `Alike.read`, `Alike.write`, `Alike.rename` and the lemmas beside them: what the operations answer
   and leave.
3. `Alike.of_touched`: a change of the log file in one of the trees leaves them alike.
-/

namespace WorkflowDocs.FileTree

variable {α β γ δ : Type} {logs : Location → Prop} {twins : Location → Text → Text → Prop}
  {base tree other changed : FileTree} {place : Location} {path source target : Text} {follow : Bool}

/-! ## Two results -/

/-- Two operations succeed, with related values, or both fail. -/
inductive Both (related : α → β → Prop) : Except FileError α → Except FileError β → Prop
  | ok {value : α} {value' : β} : related value value' → Both related (.ok value) (.ok value')
  | error (error error' : FileError) : Both related (.error error) (.error error')

theorem Both.bind {related : α → β → Prop} {onward : γ → δ → Prop} {first : Except FileError α}
    {first' : Except FileError β} {next : α → Except FileError γ} {next' : β → Except FileError δ}
    (both : Both related first first')
    (each : ∀ value value', first = .ok value → first' = .ok value' → related value value' →
      Both onward (next value) (next' value')) :
    Both onward (first >>= next) (first' >>= next') := by
  cases both with
  | ok related => exact each _ _ rfl rfl related
  | error error error' => exact .error error error'

/-! ## Paths that lead as before -/

/-- No walk can tell the tree from the base, so every path leads where it led. -/
structure Kept (base tree : FileTree) : Prop where
  stays : tree.workingDirectory = base.workingDirectory
  similar : ∀ spot, Similar base tree spot

namespace Kept

theorem refl (tree : FileTree) : Kept tree tree := ⟨rfl, fun _ => .inl rfl⟩

theorem touched {spot : Option Location} (kept : Kept base tree)
    (touched : Touched tree changed spot) : Kept base changed where
  stays := touched.stays.trans kept.stays
  similar place := (kept.similar place).trans (touched.similar place)

theorem goal?_eq (kept : Kept base tree) : tree.goal? path = base.goal? path :=
  goal?_of_similar kept.stays kept.similar

end Kept

/-! ## Entries -/

/-- Nothing stands there, or a file. -/
inductive Loose : Option Entry → Prop
  | free : Loose none
  | file (content : Content) (mode : Nat) : Loose (some (.file content mode))

/-- What may stand at one place of two trees: the same in both, or at the place of a log nothing or
files, or files with twin texts and the same permissions. -/
inductive Pair (logs : Location → Prop) (twins : Location → Text → Text → Prop)
    (place : Location) : Option Entry → Option Entry → Prop
  | same {entry : Option Entry} : (logs place → Loose entry) → Pair logs twins place entry entry
  | log {entry entry' : Option Entry} : logs place → Loose entry → Loose entry' →
      Pair logs twins place entry entry'
  | twin {text text' : Text} (mode : Nat) : twins place text text' →
      Pair logs twins place (some (.file (.text text) mode)) (some (.file (.text text') mode))

/-- The trees differ at the places of logs and of twins only. -/
structure Alike (logs : Location → Prop) (twins : Location → Text → Text → Prop)
    (tree other : FileTree) : Prop where
  stays : other.workingDirectory = tree.workingDirectory
  each : ∀ place, Pair logs twins place (tree.entry? place) (other.entry? place)

/-- The changed trees are alike, and agree wherever the trees did. -/
structure Alters (logs : Location → Prop) (twins : Location → Text → Text → Prop)
    (tree other changed changed' : FileTree) : Prop where
  alike : Alike logs twins changed changed'
  agree : ∀ place, other.entry? place = tree.entry? place →
    changed'.entry? place = changed.entry? place

theorem loose_iff : Loose (tree.entry? place) ↔
    tree.isLink place = false ∧ tree.isDirectory place = false := by
  unfold isLink isDirectory
  constructor
  · intro loose
    cases found : tree.entry? place with
    | none => simp
    | some entry =>
      rw [found] at loose
      cases loose
      simp
  · rintro ⟨plain, flat⟩
    cases found : tree.entry? place with
    | none => exact .free
    | some entry =>
      cases entry with
      | file content mode => exact .file content mode
      | directory => simp [found] at flat
      | link => simp [found] at plain

theorem Similar.loose (similar : Similar tree changed place) (loose : Loose (tree.entry? place)) :
    Loose (changed.entry? place) := by
  rcases similar with equal | ⟨_, plain, kind⟩
  · rwa [equal]
  · exact loose_iff.mpr ⟨plain, kind.trans (loose_iff.mp loose).2⟩

theorem similar_of_loose (loose : Loose (tree.entry? place)) (loose' : Loose (other.entry? place)) :
    Similar tree other place := by
  obtain ⟨plain, flat⟩ := loose_iff.mp loose
  obtain ⟨plain', flat'⟩ := loose_iff.mp loose'
  exact .inr ⟨plain, plain', flat'.trans flat.symm⟩

namespace Pair

variable {entry entry' : Option Entry}

theorem symm (pair : Pair logs twins place entry entry') :
    Pair logs (fun place text text' => twins place text' text) place entry' entry := by
  cases pair with
  | same loose => exact .same loose
  | log logged loose loose' => exact .log logged loose' loose
  | twin mode isTwin => exact .twin mode isTwin

theorem loose (pair : Pair logs twins place entry entry') (logged : logs place) :
    Loose entry ∧ Loose entry' := by
  cases pair with
  | same loose => exact ⟨loose logged, loose logged⟩
  | log _ loose loose' => exact ⟨loose, loose'⟩
  | twin => exact ⟨.file _ _, .file _ _⟩

theorem eq (pair : Pair logs twins place entry entry') (apart : ¬logs place)
    (single : ∀ text text', ¬twins place text text') : entry' = entry := by
  cases pair with
  | same => rfl
  | log logged => exact absurd logged apart
  | twin _ isTwin => exact absurd isTwin (single _ _)

theorem isSome_eq (pair : Pair logs twins place entry entry') (apart : ¬logs place) :
    entry'.isSome = entry.isSome := by
  cases pair with
  | same => rfl
  | log logged => exact absurd logged apart
  | twin => rfl

end Pair

/-! ## Places -/

namespace Alike

theorem symm (alike : Alike logs twins tree other) :
    Alike logs (fun place text text' => twins place text' text) other tree where
  stays := alike.stays.symm
  each place := (alike.each place).symm

theorem similar (alike : Alike logs twins tree other) (place : Location) :
    Similar tree other place := by
  have pair := alike.each place
  generalize here : tree.entry? place = entry at pair
  generalize here' : other.entry? place = entry' at pair
  cases pair with
  | same => exact .inl (here'.trans here.symm)
  | log _ loose loose' => exact similar_of_loose (here ▸ loose) (here' ▸ loose')
  | twin => exact similar_of_loose (here ▸ .file _ _) (here' ▸ .file _ _)

theorem place?_eq (alike : Alike logs twins tree other) : other.place? path = tree.place? path :=
  place?_of_similar alike.stays alike.similar

theorem goal?_eq (alike : Alike logs twins tree other) : other.goal? path = tree.goal? path :=
  goal?_of_similar alike.stays alike.similar

theorem locate (alike : Alike logs twins tree other) (follow : Bool) (path : Text) :
    Both Eq (tree.locate follow path) (other.locate follow path) := by
  have same : (other.locate follow path).toOption = (tree.locate follow path).toOption := by
    cases follow with
    | false => exact alike.place?_eq
    | true => exact alike.goal?_eq
  cases first : tree.locate follow path with
  | error error =>
    cases second : other.locate follow path with
    | error error' => exact .error error error'
    | ok found' => simp [first, second, Except.toOption] at same
  | ok found =>
    rw [first] at same
    rw [toOption_eq_some_iff.mp same]
    exact .ok rfl

/-! ## Changes -/

/-- Entries that may stand at one place are put there. -/
theorem alters_put (alike : Alike logs twins tree other) {entry entry' : Entry}
    (pair : Pair logs twins place (some entry) (some entry'))
    (agree : other.entry? place = tree.entry? place → entry' = entry) :
    Alters logs twins tree other (tree.put place entry) (other.put place entry') where
  alike :=
    { stays := alike.stays
      each := fun spot => by
        by_cases here : spot = place
        · subst here
          by_cases root : spot = []
          · subst root
            exact alike.each []
          · rwa [entry?_put_self root, entry?_put_self root]
        · rw [entry?_put_of_ne here, entry?_put_of_ne here]
          exact alike.each spot }
  agree spot same := by
    by_cases here : spot = place
    · subst here
      by_cases root : spot = []
      · subst root
        rfl
      · rw [entry?_put_self root, entry?_put_self root, agree same]
    · rwa [entry?_put_of_ne here, entry?_put_of_ne here]

theorem put (alike : Alike logs twins tree other) {entry : Entry}
    (loose : logs place → Loose (some entry)) :
    Alters logs twins tree other (tree.put place entry) (other.put place entry) :=
  alike.alters_put (.same loose) fun _ => rfl

theorem erase (alike : Alike logs twins tree other) (place : Location) :
    Alike logs twins (tree.erase place) (other.erase place) where
  stays := alike.stays
  each spot := by
    by_cases root : spot = []
    · subst root
      exact alike.each []
    · by_cases here : spot = place
      · subst here
        rw [entry?_erase_self root, entry?_erase_self root]
        exact .same fun _ => .free
      · rw [entry?_erase_of_ne here, entry?_erase_of_ne here]
        exact alike.each spot

/-- A change of a log file in one of the trees. -/
theorem of_touched (alike : Alike logs twins tree other) {spot : Option Location}
    (touched : Touched tree changed spot) (logged : ∀ place, spot = some place → logs place) :
    Alike logs twins changed other where
  stays := alike.stays.trans touched.stays.symm
  each place := by
    by_cases here : spot = some place
    · obtain ⟨loose, loose'⟩ := (alike.each place).loose (logged place here)
      exact .log (logged place here) ((touched.similar place).loose loose) loose'
    · rw [touched.same place here]
      exact alike.each place

theorem of_touched' (alike : Alike logs twins tree other) {spot : Option Location}
    (touched : Touched other changed spot) (logged : ∀ place, spot = some place → logs place) :
    Alike logs twins tree changed :=
  (alike.symm.of_touched touched logged).symm

end Alike

/-! ## Operations -/

/-- The path leads to no log. -/
def Unlogged (logs : Location → Prop) (tree : FileTree) (path : Text) : Prop :=
  ∀ place, tree.goal? path = some place → ¬logs place

theorem Kept.unlogged (kept : Kept base tree) (apart : Unlogged logs base path) :
    Unlogged logs tree path := by
  unfold Unlogged
  rwa [kept.goal?_eq]

/-- What is found at a path of two trees. -/
structure Found (logs : Location → Prop) (twins : Location → Text → Text → Prop)
    (tree other : FileTree) (path : Text) (found found' : Location × Entry) : Prop where
  place : found.1 = found'.1
  leads : tree.goal? path = some found.1
  here : tree.entry? found.1 = some found.2
  here' : other.entry? found.1 = some found'.2
  pair : Pair logs twins found.1 (some found.2) (some found'.2)

namespace Alike

/-- A path that leads to no log has its own place elsewhere too. -/
theorem unlogged_place (alike : Alike logs twins tree other) (apart : Unlogged logs tree path)
    (own : tree.place? path = some place) : ¬logs place := by
  intro logged
  have loose := loose_iff.mp ((alike.each place).loose logged).1
  exact apart place (goal?_of_place? own loose.1) logged

theorem find (alike : Alike logs twins tree other) (apart : Unlogged logs tree path) :
    Both (Found logs twins tree other path) (tree.find path) (other.find path) := by
  refine (alike.locate true path).bind fun goal goal' located _ equal => ?_
  subst equal
  have leads := toOption_eq_some_iff.mpr located
  have pair := alike.each goal
  have same := pair.isSome_eq (apart goal leads)
  cases here : tree.entry? goal with
  | none =>
    rw [here, Option.isSome_none, Option.isSome_eq_false_iff, Option.isNone_iff_eq_none] at same
    rw [same]
    exact .error _ _
  | some entry =>
    rw [here] at same
    obtain ⟨entry', here'⟩ := Option.isSome_iff_exists.mp same
    rw [here'] at pair ⊢
    exact .ok ⟨rfl, leads, here, here', here ▸ pair⟩

theorem isThere (alike : Alike logs twins tree other) (apart : Unlogged logs tree path) :
    other.isThere path = tree.isThere path := by
  have found := alike.find apart
  unfold FileTree.isThere
  generalize tree.find path = first at found
  generalize other.find path = second at found
  cases found <;> rfl

/-- The texts that are read are the same, or twins. -/
theorem read (alike : Alike logs twins tree other) (apart : Unlogged logs tree path) :
    Both (fun text text' => text = text' ∨
        ∃ place, tree.goal? path = some place ∧ twins place text text')
      (tree.read path) (other.read path) := by
  refine (alike.find apart).bind fun found found' _ _ isFound => ?_
  obtain ⟨place, entry⟩ := found
  obtain ⟨place', entry'⟩ := found'
  obtain ⟨rfl, leads, _, _, pair⟩ := isFound
  cases pair with
  | same =>
    rcases entry with ⟨_ | _, _⟩ | _ | _
    · exact .ok (.inl rfl)
    · exact .error _ _
    · exact .error _ _
    · exact .error _ _
  | log logged => exact absurd logged (apart _ leads)
  | twin mode isTwin => exact .ok (.inr ⟨_, leads, isTwin⟩)

theorem mode (alike : Alike logs twins tree other) (apart : Unlogged logs tree path) :
    Both Eq (tree.mode path) (other.mode path) := by
  refine (alike.find apart).bind fun found found' _ _ isFound => ?_
  obtain ⟨place, entry⟩ := found
  obtain ⟨place', entry'⟩ := found'
  obtain ⟨rfl, leads, _, _, pair⟩ := isFound
  cases pair with
  | same =>
    rcases entry with _ | _ | _
    · exact .ok rfl
    · exact .ok rfl
    · exact .error _ _
  | log logged => exact absurd logged (apart _ leads)
  | twin => exact .ok rfl

theorem setMode (alike : Alike logs twins tree other) (apart : Unlogged logs tree path)
    (mode : Nat) : Both (Alters logs twins tree other) (tree.setMode path mode)
      (other.setMode path mode) := by
  refine (alike.find apart).bind fun found found' _ _ isFound => ?_
  obtain ⟨place, entry⟩ := found
  obtain ⟨place', entry'⟩ := found'
  obtain ⟨rfl, leads, here, here', pair⟩ := isFound
  have apart := apart _ leads
  cases pair with
  | same =>
    rcases entry with ⟨content, _⟩ | _ | _
    · exact .ok (alike.put fun _ => .file content mode)
    · exact .ok (alike.put fun logged => absurd logged apart)
    · exact .error _ _
  | log logged => exact absurd logged apart
  | twin before isTwin =>
    refine .ok (alike.alters_put (.twin mode isTwin) fun same => ?_)
    rw [here, here'] at same
    cases same
    rfl

theorem openForWriting (alike : Alike logs twins tree other) (apart : Unlogged logs tree path) :
    Both (fun found found' => found.1 = found'.1 ∧
        found.2.map (·.2) = found'.2.map (·.2) ∧ tree.goal? path = some found.1)
      (tree.openForWriting path) (other.openForWriting path) := by
  unfold FileTree.openForWriting
  by_cases slash : path.getLast? = some '/'
  · rw [if_pos slash, if_pos slash]
    cases tree.locate false (withoutFinalSlashes path) <;>
      cases other.locate false (withoutFinalSlashes path) <;> exact .error _ _
  · rw [if_neg slash, if_neg slash]
    have both := alike.locate true path
    generalize located : tree.locate true path = goal at both
    generalize other.locate true path = goal' at both
    cases both with
    | error error error' => exact .error error error'
    | @ok goal _ equal =>
      subst equal
      have leads := toOption_eq_some_iff.mpr located
      have pair := alike.each goal
      dsimp only
      generalize tree.entry? goal = entry at pair
      generalize other.entry? goal = entry' at pair
      cases pair with
      | same =>
        rcases entry with _ | _ | _ | _
        · exact .ok ⟨rfl, rfl, leads⟩
        · exact .ok ⟨rfl, rfl, leads⟩
        · exact .error _ _
        · exact .error _ _
      | log logged => exact absurd logged (apart goal leads)
      | twin => exact .ok ⟨rfl, rfl, leads⟩

/-- What is written stands in both trees. -/
theorem write (alike : Alike logs twins tree other) (apart : Unlogged logs tree path)
    (text : Text) :
    Both (fun changed changed' => Alters logs twins tree other changed changed' ∧
        ∀ place, tree.goal? path = some place → changed'.entry? place = changed.entry? place)
      (tree.write path text) (other.write path text) := by
  refine (alike.openForWriting apart).bind fun found found' _ _ opened => ?_
  obtain ⟨place, file⟩ := found
  obtain ⟨place', file'⟩ := found'
  obtain ⟨rfl, modes, leads⟩ := opened
  dsimp only at modes leads ⊢
  rw [← modes]
  refine .ok ⟨alike.put fun _ => .file _ _, fun spot leads' => ?_⟩
  obtain rfl := Option.some.inj (leads.symm.trans leads')
  by_cases root : place = []
  · subst root
    rfl
  · rw [entry?_put_self root, entry?_put_self root]

/-- The file that is moved is the same in both trees, and neither it nor what it replaces is a
log. -/
theorem rename (alike : Alike logs twins tree other)
    (moved : ∀ place, tree.place? source = some place →
      ¬logs place ∧ other.entry? place = tree.entry? place)
    (replaced : ∀ place, tree.place? target = some place → ¬logs place) :
    Both (Alike logs twins) (tree.rename source target) (other.rename source target) := by
  refine (alike.locate false source).bind fun start _ located _ equal => ?_
  subst equal
  obtain ⟨_, same⟩ := moved start (toOption_eq_some_iff.mpr located)
  refine (alike.locate false target).bind fun stop _ located' _ equal => ?_
  subst equal
  have apart := replaced stop (toOption_eq_some_iff.mpr located')
  have pair := alike.each stop
  have arrives : ∀ entry, Both (Alike logs twins)
      (return if start = stop then tree else (tree.erase start).put stop entry)
      (return if start = stop then other else (other.erase start).put stop entry) := by
    intro entry
    refine .ok ?_
    split
    · exact alike
    · exact ((alike.erase start).put fun logged => absurd logged apart).alike
  rw [same]
  generalize tree.entry? stop = entry at pair
  generalize other.entry? stop = entry' at pair
  rcases tree.entry? start with _ | moving
  · exact .error _ _
  · cases pair with
    | same =>
      cases moving with
      | directory mode => rcases entry with _ | _ | _ | _ <;> exact .error _ _
      | file content mode | link text =>
        rcases entry with _ | _ | _ | _
        · exact arrives _
        · exact arrives _
        · exact .error _ _
        · exact arrives _
    | log logged => exact absurd logged apart
    | twin =>
      rcases moving with _ | _ | _
      · exact arrives _
      · exact .error _ _
      · exact arrives _

theorem remove (alike : Alike logs twins tree other)
    (removed : ∀ place, tree.place? path = some place → ¬logs place) :
    Both (Alike logs twins) (tree.remove path) (other.remove path) := by
  refine (alike.locate false path).bind fun spot _ located _ equal => ?_
  subst equal
  have apart := removed spot (toOption_eq_some_iff.mpr located)
  have pair := alike.each spot
  generalize tree.entry? spot = entry at pair
  generalize other.entry? spot = entry' at pair
  cases pair with
  | same =>
    rcases entry with _ | _ | _ | _
    · exact .error _ _
    · exact .ok (alike.erase spot)
    · exact .error _ _
    · exact .ok (alike.erase spot)
  | log logged => exact absurd logged apart
  | twin => exact .ok (alike.erase spot)

end Alike

end WorkflowDocs.FileTree
