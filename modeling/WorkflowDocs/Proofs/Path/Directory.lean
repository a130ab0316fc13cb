import WorkflowDocs.Proofs.Path

/-!
# Joined paths and the directory of a path

What is joined to a path stands behind its pieces, and the path of the directory of a file has the
pieces before its last name.

Results:
1. `join_assoc`: paths are joined in any order.
2. `pieces_join`: the pieces of a joined path.
3. `pieces_directory`: the pieces of the directory of a path.
-/

namespace WorkflowDocs.Path

variable {path base name : Text} {before : List Text}

/-! ## Joined paths -/

theorem join_of_absolute (absolute : isAbsolute path = true) (base : Text) :
    join base path = path := by
  rw [join, if_pos absolute]

theorem join_nil (path : Text) : join [] path = path := by
  unfold join
  split <;> rfl

/-- A path with the slash that something is joined to it with. -/
def slashed (base : Text) : Text :=
  if base.isEmpty || base.getLast? = some '/' then base else base ++ ['/']

theorem join_of_relative (relative : isAbsolute path = false) (base : Text) :
    join base path = slashed base ++ path := by
  unfold join slashed
  rw [relative]
  split
  next absurd => cases absurd
  · split
    · rfl
    · rw [List.append_assoc]
      rfl

theorem isAbsolute_slashed_append (relative : isAbsolute path = false) (base : Text) :
    isAbsolute (slashed base ++ path) = isAbsolute base := by
  cases base with
  | nil => exact relative
  | cons c rest =>
    unfold slashed
    split <;> rfl

theorem isAbsolute_join (relative : isAbsolute path = false) (base : Text) :
    isAbsolute (join base path) = isAbsolute base := by
  rw [join_of_relative relative, isAbsolute_slashed_append relative]

theorem slashed_append (base path : Text) :
    slashed (slashed base ++ path) = slashed base ++ slashed path := by
  cases path using List.reverseRecOn with
  | nil =>
    have ended : slashed (slashed base) = slashed base := by
      unfold slashed
      split
      · rfl
      · simp
    simpa [slashed] using ended
  | append_singleton outer last =>
    have filled : (slashed base ++ (outer ++ [last])).isEmpty = false := by simp
    have filled' : (outer ++ [last]).isEmpty = false := by simp
    have ends : (slashed base ++ (outer ++ [last])).getLast? = some last := by
      rw [← List.append_assoc, List.getLast?_concat]
    rw [slashed, filled, ends, slashed.eq_def (outer ++ [last]), filled', List.getLast?_concat]
    split <;> simp

/-- A name joined to a joined path is the joined name joined to the first. -/
theorem join_assoc (base path name : Text) :
    join (join base path) name = join base (join path name) := by
  cases absolute : isAbsolute name with
  | true => simp only [join_of_absolute absolute]
  | false =>
    cases outer : isAbsolute path with
    | true =>
      have whole : isAbsolute (join path name) = true := by
        rw [isAbsolute_join absolute, outer]
      rw [join_of_absolute outer, join_of_absolute whole]
    | false =>
      have whole : isAbsolute (slashed path ++ name) = false := by
        rw [isAbsolute_slashed_append absolute, outer]
      rw [join_of_relative outer, join_of_relative absolute, join_of_relative absolute,
        join_of_relative whole, slashed_append, List.append_assoc]

/-- The pieces of a joined path are those of both, but for an empty one between them. -/
theorem pieces_join (relative : isAbsolute path = false) (base : Text) :
    ∃ first, pieces (join base path) = first ++ pieces path ∧
      (pieces base = first ∨ pieces base = first ++ [[]]) := by
  rw [join_of_relative relative]
  unfold slashed
  split
  next joined =>
    simp only [Bool.or_eq_true, List.isEmpty_iff, decide_eq_true_eq] at joined
    rcases joined with rfl | slash
    · exact ⟨[], rfl, .inr rfl⟩
    · obtain ⟨outer, rfl⟩ := List.getLast?_eq_some_iff.mp slash
      refine ⟨pieces outer, ?_, .inr (pieces_append_slash outer [])⟩
      rw [List.append_assoc, List.singleton_append, pieces_append_slash]
  · refine ⟨pieces base, ?_, .inl rfl⟩
    rw [List.append_assoc, List.singleton_append, pieces_append_slash]

/-! ## The directory -/

/-- The path of the directory that a path lies in; it is empty if that is where paths begin. -/
def directory (path : Text) : Text := (parent? path).getD []

theorem pieces_ne_nil (path : Text) : pieces path ≠ [] := by
  rw [pieces, Text.split_eq_splitOn]
  exact List.splitOn_ne_nil _ _

theorem pieces_of_absolute (absolute : isAbsolute path = true) :
    pieces path = [] :: pieces (path.drop 1) := by
  cases path with
  | nil => cases absolute
  | cons c rest =>
    obtain rfl : c = '/' := by simpa [isAbsolute] using absolute
    exact pieces_append_slash [] rest

theorem pieces_cons {c : Char} (noSlash : c ≠ '/') (rest : Text) :
    ∃ first more, pieces (c :: rest) = (c :: first) :: more := by
  unfold pieces
  rw [Text.split, if_neg noSlash]
  split
  · exact ⟨_, _, rfl⟩
  · exact ⟨_, _, rfl⟩

/-- A path is read back from its pieces. -/
theorem pieces_join_pieces (filled : before ≠ []) (flat : ∀ piece ∈ before, '/' ∉ piece) :
    pieces (Text.join ['/'] before) = before := by
  rw [pieces, Text.split_eq_splitOn]
  exact List.splitOn_intercalate '/' flat filled

theorem not_mem_of_mem_pieces {piece : Text} (member : piece ∈ pieces path) : '/' ∉ piece :=
  Text.not_mem_of_mem_split member

/-- The parts of a path are its pieces, but for some at the end that mean nothing. -/
theorem exists_parts (path : Text) : ∃ idle,
    pieces (if isAbsolute path then path.drop 1 else path) = parts path ++ idle ∧
      ∀ piece ∈ idle, meaningless piece = true := by
  have trimmed (found : List Text) : ∃ idle, found = found.rdropWhile meaningless ++ idle ∧
      ∀ piece ∈ idle, meaningless piece = true :=
    ⟨found.rtakeWhile meaningless, (List.rdropWhile_append_rtakeWhile ..).symm,
      fun _ member => List.mem_rtakeWhile_imp member⟩
  rw [parts_eq]
  split
  · exact trimmed _
  · split
    next more dotted =>
      obtain ⟨idle, cut, rest⟩ := trimmed more
      exact ⟨idle, by rw [dotted, List.cons_append, ← cut], rest⟩
    · exact trimmed _

/-- A relative path that is not empty begins with a part. -/
theorem parts_ne_nil (relative : isAbsolute path = false) (filled : path ≠ []) :
    parts path ≠ [] := by
  intro none
  obtain ⟨c, rest, rfl⟩ := List.exists_cons_of_ne_nil filled
  have noSlash : c ≠ '/' := by simpa [isAbsolute] using relative
  obtain ⟨first, more, cut⟩ := pieces_cons noSlash rest
  rw [parts_eq, relative, cut] at none
  simp only [Bool.false_eq_true, if_false] at none
  split at none
  · cases none
  next noDot =>
    have idle := List.rdropWhile_eq_nil_iff.mp none _ List.mem_cons_self
    simp only [meaningless, List.isEmpty_cons, Bool.false_or, decide_eq_true_eq] at idle
    exact noDot more (by rw [idle])

/-- Nothing is cut off behind a last piece that means something. -/
theorem parts_of_last (last : meaningless name = false)
    (cut : pieces (if isAbsolute path then path.drop 1 else path) = before ++ [name]) :
    parts path = before ++ [name] := by
  obtain ⟨idle, whole, rest⟩ := exists_parts path
  rw [cut] at whole
  cases idle using List.reverseRecOn with
  | nil => simpa using whole.symm
  | append_singleton others piece =>
    rw [← List.append_assoc] at whole
    obtain ⟨_, same⟩ := List.append_inj' whole rfl
    cases same
    simp [rest name (by simp)] at last

theorem directory_of_parts (cut : parts path = before ++ [name]) :
    directory path =
      (if isAbsolute path then ['/'] else []) ++ Text.join ['/']
        (parts ((if isAbsolute path then ['/'] else []) ++ Text.join ['/'] before)) := by
  unfold directory parent?
  rw [cut]
  split
  next none => simp at none
  · rw [List.dropLast_concat]
    rfl

/-- A path that begins with a slash has an empty piece and others behind it. -/
theorem isAbsolute_iff :
    isAbsolute path = true ↔ ∃ second more, pieces path = [] :: second :: more := by
  constructor
  · intro absolute
    obtain ⟨second, more, cut⟩ := List.exists_cons_of_ne_nil (pieces_ne_nil (path.drop 1))
    exact ⟨second, more, by rw [pieces_of_absolute absolute, cut]⟩
  · rintro ⟨second, more, cut⟩
    by_contra relative
    rw [Bool.not_eq_true] at relative
    cases path with
    | nil => cases cut
    | cons c rest =>
      have noSlash : c ≠ '/' := by simpa [isAbsolute] using relative
      obtain ⟨first, others, begins⟩ := pieces_cons noSlash rest
      cases begins.symm.trans cut

/-- A path with the first pieces of a relative one is relative. -/
theorem isAbsolute_of_pieces {first : Text} {rest : List Text} (relative : isAbsolute path = false)
    (same : pieces path = pieces first ++ rest) : isAbsolute first = false := by
  by_contra absolute
  rw [Bool.not_eq_false] at absolute
  obtain ⟨second, more, begins⟩ := isAbsolute_iff.mp absolute
  rw [begins] at same
  simp [isAbsolute_iff.mpr ⟨second, more ++ rest, same⟩] at relative

/-- The pieces of the path are these, but for some at the end that mean nothing. -/
def Shortens (path : Text) (found : List Text) : Prop :=
  ∃ kept idle, found = kept ++ idle ∧ (∀ piece ∈ idle, meaningless piece = true) ∧
    (pieces path = kept ∨ pieces path = kept ++ [[]])

theorem pieces_directory_of_relative (last : meaningless name = false)
    (relative : isAbsolute path = false) (cut : pieces path = before ++ [name]) :
    isAbsolute (directory path) = false ∧ Shortens (directory path) before := by
  have flat : ∀ piece ∈ before, '/' ∉ piece := fun piece member =>
    not_mem_of_mem_pieces (cut ▸ List.mem_append_left _ member)
  have whole := parts_of_last last (by rwa [relative, if_neg Bool.false_ne_true])
  have isDirectory := directory_of_parts whole
  rw [relative, if_neg Bool.false_ne_true, List.nil_append] at isDirectory
  rw [isDirectory]
  by_cases none : before = []
  · subst none
    exact ⟨rfl, [], [], rfl, by simp, .inr rfl⟩
  · have inner := pieces_join_pieces none flat
    have innerRelative : isAbsolute (Text.join ['/'] before) = false :=
      isAbsolute_of_pieces relative (by rw [inner, cut])
    have filled : Text.join ['/'] before ≠ [] := by
      intro empty
      rw [empty] at inner
      have absolute : isAbsolute path = true :=
        isAbsolute_iff.mpr ⟨name, [], by rw [cut, ← inner]; rfl⟩
      simp [absolute] at relative
    obtain ⟨idle, parted, rest⟩ := exists_parts (Text.join ['/'] before)
    rw [innerRelative, if_neg Bool.false_ne_true, inner] at parted
    have kept := pieces_join_pieces (parts_ne_nil innerRelative filled) fun piece member =>
      flat piece (parted ▸ List.mem_append_left _ member)
    have extended : pieces path =
        pieces (Text.join ['/'] (parts (Text.join ['/'] before))) ++ (idle ++ [name]) := by
      rw [kept, ← List.append_assoc, ← parted, cut]
    exact ⟨isAbsolute_of_pieces relative extended, _, idle, parted, rest, .inl kept⟩

theorem pieces_directory_of_absolute (last : meaningless name = false)
    (absolute : isAbsolute path = true) (cut : pieces path = before ++ [name]) :
    isAbsolute (directory path) = true ∧ Shortens (directory path) before := by
  have flat : ∀ piece ∈ before, '/' ∉ piece := fun piece member =>
    not_mem_of_mem_pieces (cut ▸ List.mem_append_left _ member)
  have begins := (pieces_of_absolute absolute).symm.trans cut
  obtain ⟨behind, rfl⟩ : ∃ behind, before = [] :: behind := by
    cases before with
    | nil => simp [pieces_ne_nil] at begins
    | cons first behind =>
      rw [List.cons_append, List.cons.injEq] at begins
      exact ⟨behind, by rw [← begins.1]⟩
  rw [List.cons_append, List.cons.injEq] at begins
  have whole := parts_of_last last (by rw [absolute, if_pos rfl, begins.2])
  have isDirectory := directory_of_parts whole
  rw [absolute, if_pos rfl] at isDirectory
  rw [isDirectory]
  generalize outer : parts (['/'] ++ Text.join ['/'] behind) = kept
  obtain ⟨idle, parted, rest⟩ : ∃ idle, behind = kept ++ idle ∧
      ∀ piece ∈ idle, meaningless piece = true := by
    by_cases none : behind = []
    · subst none
      obtain rfl : [] = kept := outer
      exact ⟨[], rfl, by simp⟩
    · have inner := pieces_join_pieces none fun piece member =>
        flat piece (List.mem_cons_of_mem _ member)
      obtain ⟨idle, parted, rest⟩ := exists_parts (['/'] ++ Text.join ['/'] behind)
      exact ⟨idle, by rw [← outer, ← parted]; exact inner.symm, rest⟩
  refine ⟨rfl, [] :: kept, idle, by rw [parted]; rfl, rest, ?_⟩
  rw [pieces_of_absolute rfl]
  by_cases none : kept = []
  · subst none
    exact .inr rfl
  · refine .inl (congrArg _ (pieces_join_pieces none fun piece member => ?_))
    exact flat piece (List.mem_cons_of_mem _ (parted ▸ List.mem_append_left _ member))

/-- The pieces of the directory of a path are those before the last one, but for some at the end
that mean nothing, and both paths begin at the same place. -/
theorem pieces_directory (last : meaningless name = false)
    (cut : pieces path = before ++ [name]) :
    isAbsolute (directory path) = isAbsolute path ∧ Shortens (directory path) before := by
  cases absolute : isAbsolute path with
  | true => exact pieces_directory_of_absolute last absolute cut
  | false => exact pieces_directory_of_relative last absolute cut

end WorkflowDocs.Path
