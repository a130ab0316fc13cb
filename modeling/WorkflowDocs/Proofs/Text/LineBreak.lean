import WorkflowDocs.Text.LineBreak

/-!
# Line breaks and lines

Results:
1. `normalizeBreaks_join`: lines that hold no break keep their text in either style, and what stands
   between them becomes the terminator.
2. `normalizeBreaks_append`: texts in a row are rewritten one by one, unless a `\r` at the end of the
   first and a `\n` at the start of the second are one break.
-/

namespace WorkflowDocs.Text

variable {c : Char} {text before after : Text} {texts lines : List Text} {style : LineBreaks}

/-! ## Characters that become texts -/

theorem replaceChar_append (c : Char) (replacement before after : Text) :
    replaceChar c replacement (before ++ after) =
      replaceChar c replacement before ++ replaceChar c replacement after :=
  List.flatMap_append

theorem replaceChar_of_not_mem {replacement : Text} (absent : c ∉ text) :
    replaceChar c replacement text = text := by
  induction text with
  | nil => rfl
  | cons d rest ih =>
    rw [List.mem_cons, not_or] at absent
    have kept := ih absent.2
    rw [replaceChar] at kept ⊢
    rw [List.flatMap_cons, if_neg (Ne.symm absent.1), kept, List.singleton_append]

theorem mem_replaceChar {d : Char} {replacement : Text}
    (member : d ∈ replaceChar c replacement text) : d ∈ replacement ∨ d ∈ text ∧ d ≠ c := by
  obtain ⟨e, inText, here⟩ := List.mem_flatMap.mp member
  split at here
  next => exact .inl here
  next other =>
    obtain rfl := List.mem_singleton.mp here
    exact .inr ⟨inText, other⟩

theorem replaceChar_join {replacement : Text} (absent : ∀ text ∈ texts, c ∉ text) :
    replaceChar c replacement (join [c] texts) = join replacement texts := by
  induction texts with
  | nil => rfl
  | cons first rest ih =>
    rw [List.forall_mem_cons] at absent
    cases rest with
    | nil =>
      simp only [join, List.intercalate_singleton]
      exact replaceChar_of_not_mem absent.1
    | cons second more =>
      have others := ih absent.2
      simp only [join, List.intercalate_cons_cons] at others ⊢
      rw [replaceChar_append, replaceChar_append, others, replaceChar_of_not_mem absent.1]
      simp [replaceChar]

/-! ## Lines -/

/-- The text is a single line. -/
def Unbroken (text : Text) : Prop := '\n' ∉ text ∧ '\r' ∉ text

instance (text : Text) : Decidable (Unbroken text) := inferInstanceAs (Decidable (_ ∧ _))

theorem Unbroken.append (first : Unbroken before) (second : Unbroken after) :
    Unbroken (before ++ after) := by
  obtain ⟨noFeed, noReturn⟩ := first
  obtain ⟨noFeed', noReturn'⟩ := second
  exact ⟨by simp [noFeed, noFeed'], by simp [noReturn, noReturn']⟩

theorem not_mem_join {separator : Text} (apart : c ∉ separator) (absent : ∀ text ∈ texts, c ∉ text) :
    c ∉ join separator texts := by
  induction texts with
  | nil => exact List.not_mem_nil
  | cons first rest ih =>
    rw [List.forall_mem_cons] at absent
    cases rest with
    | nil => simpa [join, List.intercalate_singleton] using absent.1
    | cons second more =>
      have others := ih absent.2
      rw [join] at others
      simp [join, List.intercalate_cons_cons, absent.1, apart, others]

theorem unbroken_join {separator : Text} (flat : Unbroken separator)
    (unbroken : ∀ text ∈ texts, Unbroken text) : Unbroken (join separator texts) :=
  ⟨not_mem_join flat.1 fun text member => (unbroken text member).1,
    not_mem_join flat.2 fun text member => (unbroken text member).2⟩

theorem foldPairs_of_not_mem (absent : '\r' ∉ text) : foldPairs text = text := by
  induction text using foldPairs.induct with
  | case1 => rfl
  | case2 rest => simp at absent
  | case3 c rest apart ih =>
    rw [foldPairs.eq_3 c rest apart, ih fun later => absent (List.mem_cons_of_mem c later)]

theorem unifyBreaks_of_not_mem (absent : '\r' ∉ text) : unifyBreaks text = text := by
  rw [unifyBreaks, foldPairs_of_not_mem absent, replaceChar_of_not_mem absent]

theorem normalizeBreaks_join (unbroken : ∀ line ∈ lines, Unbroken line) :
    normalizeBreaks style (join ['\n'] lines) = join style.terminator lines := by
  have noReturn : '\r' ∉ join ['\n'] lines :=
    not_mem_join (by decide) fun line present => (unbroken line present).2
  cases style with
  | lf => exact unifyBreaks_of_not_mem noReturn
  | crlf =>
    rw [normalizeBreaks, unifyBreaks_of_not_mem noReturn]
    exact replaceChar_join fun line present => (unbroken line present).1

/-! ## Texts in a row -/

theorem foldPairs_append (apart : before.getLast? = some '\r' → after.head? ≠ some '\n') :
    foldPairs (before ++ after) = foldPairs before ++ foldPairs after := by
  induction before using foldPairs.induct with
  | case1 => rfl
  | case2 rest ih =>
    have apart' : rest.getLast? = some '\r' → after.head? ≠ some '\n' := by
      cases rest <;> simp_all [List.getLast?_cons_cons]
    simp [foldPairs, ih apart']
  | case3 c rest single ih =>
    -- the text in front ends no pair that begins with its last character, so the same are found
    cases rest with
    | nil =>
      have single' : ∀ rest, c = '\r' → after = '\n' :: rest → False := by
        rintro rest rfl rfl
        exact apart rfl rfl
      rw [List.singleton_append, foldPairs.eq_3 c _ single', foldPairs.eq_3 c _ single]
      rfl
    | cons d more =>
      have apart' : (d :: more).getLast? = some '\r' → after.head? ≠ some '\n' := by
        rwa [List.getLast?_cons_cons] at apart
      have single' : ∀ rest, c = '\r' → d :: (more ++ after) = '\n' :: rest → False := by
        rintro _ rfl ⟨⟩
        exact single more rfl rfl
      rw [List.cons_append, List.cons_append, foldPairs.eq_3 c _ single', foldPairs.eq_3 c _ single,
        ← List.cons_append, ih apart', List.cons_append]

theorem unifyBreaks_append (apart : before.getLast? = some '\r' → after.head? ≠ some '\n') :
    unifyBreaks (before ++ after) = unifyBreaks before ++ unifyBreaks after := by
  rw [unifyBreaks, foldPairs_append apart, replaceChar_append]
  rfl

theorem normalizeBreaks_append (apart : before.getLast? = some '\r' → after.head? ≠ some '\n') :
    normalizeBreaks style (before ++ after) =
      normalizeBreaks style before ++ normalizeBreaks style after := by
  cases style with
  | lf => exact unifyBreaks_append apart
  | crlf =>
    simp only [normalizeBreaks]
    rw [unifyBreaks_append apart, replaceChar_append]

end WorkflowDocs.Text
