import Mathlib.Tactic.SplitIfs
import WorkflowDocs.Decimal.Notation
import WorkflowDocs.Text.Quoted

/-!
# Reading quoted texts

A quoted text can be read back one character at a time, and it ends at the first quote with no
backslash before it. Nothing that stands in a text can be taken for its end, or for what follows it.

Results:
1. `digitsValue?_hexadecimal`: the digits of a number have its value.
2. `readChar_quotedChar`: the ways of writing a character are told apart.
3. `quotedWith_append_inj`: a quoted text tells which text it is, and where it ends.
-/

namespace WorkflowDocs.Text

open Decimal (digitValue? digitsValue?)

variable {escapeSingle : Bool}

/-! ## Numbers to base sixteen -/

theorem digitValue?_digitChar : ∀ d < 16, digitValue? (Nat.digitChar d) = some d := by
  decide

theorem hexadecimal_eq (n : Nat) : hexadecimal n =
    if n < 16 then [Nat.digitChar n] else hexadecimal (n / 16) ++ [Nat.digitChar (n % 16)] :=
  Nat.toDigits_eq_if (by decide)

theorem digitsValue?_append_singleton {digits : Text} {n d : Nat}
    (value : digitsValue? 16 digits = some n) (small : d < 16) :
    digitsValue? 16 (digits ++ [Nat.digitChar d]) = some (16 * n + d) := by
  unfold digitsValue? at value ⊢
  split at value
  next => cases value
  next filled =>
    rw [if_neg (by simp), List.foldl_append, value]
    simp [digitValue?_digitChar d small, small]

theorem digitsValue?_hexadecimal (n : Nat) : digitsValue? 16 (hexadecimal n) = some n := by
  induction n using Nat.strongRecOn with
  | ind n ih =>
    rw [hexadecimal_eq]
    split
    next small => simp [digitsValue?, digitValue?_digitChar n small, small]
    next large =>
      have shorter : n / 16 < n := by omega
      rw [digitsValue?_append_singleton (ih _ shorter) (Nat.mod_lt n (by decide)), Nat.div_add_mod]

theorem not_mem_hexadecimal (n : Nat) : '}' ∉ hexadecimal n := by
  have noDigit : ∀ d < 16, '}' ≠ Nat.digitChar d := by decide
  induction n using Nat.strongRecOn with
  | ind n ih =>
    rw [hexadecimal_eq]
    split
    next small => exact fun member => noDigit n small (List.mem_singleton.mp member)
    next large =>
      have shorter : n / 16 < n := by omega
      intro member
      rcases List.mem_append.mp member with inFront | last
      · exact ih _ shorter inFront
      · exact noDigit _ (Nat.mod_lt n (by decide)) (List.mem_singleton.mp last)

/-! ## Characters -/

/-- The character that is written behind a backslash, and the written text behind it. -/
def readEscape : Text → Option (Char × Text)
  | 'n' :: rest => some ('\n', rest)
  | 'r' :: rest => some ('\r', rest)
  | 't' :: rest => some ('\t', rest)
  | '0' :: rest => some ('\x00', rest)
  | 'u' :: '{' :: rest =>
    (digitsValue? 16 (rest.takeWhile (· ≠ '}'))).map fun code =>
      (Char.ofNat code, (rest.dropWhile (· ≠ '}')).tail)
  | c :: rest => some (c, rest)
  | [] => none

/-- The first character of what is written between quotes, and the written text behind it. -/
def readChar : Text → Option (Char × Text)
  | [] => none
  | c :: rest => if c = '\\' then readEscape rest else some (c, rest)

theorem readEscape_code (c : Char) (rest : Text) :
    readEscape ('u' :: '{' :: (hexadecimal c.toNat ++ '}' :: rest)) = some (c, rest) := by
  have digits : ∀ d ∈ hexadecimal c.toNat, (decide (d ≠ '}')) = true := by
    intro d member
    rw [decide_eq_true_eq]
    rintro rfl
    exact not_mem_hexadecimal _ member
  rw [readEscape, List.takeWhile_append_of_pos digits, List.dropWhile_append_of_pos digits]
  simp [digitsValue?_hexadecimal]

theorem readChar_quotedChar (escapeSingle : Bool) (c : Char) (rest : Text) :
    readChar (quotedChar escapeSingle c ++ rest) = some (c, rest) := by
  unfold quotedChar
  split_ifs with feed ret tab null marked shown
  · subst feed; rfl
  · subst ret; rfl
  · subst tab; rfl
  · subst null; rfl
  · simp only [Bool.or_eq_true, Bool.and_eq_true, decide_eq_true_eq] at marked
    obtain (rfl | rfl) | ⟨-, rfl⟩ := marked <;> rfl
  · have plain : c ≠ '\\' := by
      rintro rfl
      simp at marked
    exact if_neg plain
  · have written : "\\u\x7b".toList ++ hexadecimal c.toNat ++ ['}'] ++ rest =
        '\\' :: 'u' :: '{' :: (hexadecimal c.toNat ++ '}' :: rest) := by simp
    rw [written]
    exact readEscape_code c rest

/-- No character is written with a quote in front, since a quote would be read as itself. -/
theorem head?_quotedChar (escapeSingle : Bool) (c : Char) (rest : Text) :
    (quotedChar escapeSingle c ++ rest).head? ≠ some '"' := by
  intro first
  obtain ⟨behind, written⟩ := List.head?_eq_some_iff.mp first
  have read := readChar_quotedChar escapeSingle c rest
  rw [written] at read
  obtain ⟨rfl, rfl⟩ : '"' = c ∧ behind = rest := by simpa [readChar] using read
  have slash : (quotedChar escapeSingle '"' ++ behind).head? = some '\\' := rfl
  exact absurd (slash.symm.trans first) (by decide)

/-! ## Texts -/

theorem flatMap_quotedChar_inj {first second before after : Text}
    (same : first.flatMap (quotedChar escapeSingle) ++ '"' :: before =
      second.flatMap (quotedChar escapeSingle) ++ '"' :: after) :
    first = second ∧ before = after := by
  induction first generalizing second with
  | nil =>
    cases second with
    | nil => exact ⟨rfl, (List.cons.inj same).2⟩
    | cons d more =>
      rw [List.flatMap_cons, List.append_assoc] at same
      exact absurd (congrArg List.head? same).symm (head?_quotedChar escapeSingle d _)
  | cons c rest ih =>
    rw [List.flatMap_cons, List.append_assoc] at same
    cases second with
    | nil => exact absurd (congrArg List.head? same) (head?_quotedChar escapeSingle c _)
    | cons d more =>
      rw [List.flatMap_cons, List.append_assoc] at same
      have read := congrArg readChar same
      rw [readChar_quotedChar, readChar_quotedChar, Option.some.injEq, Prod.mk.injEq] at read
      obtain ⟨rfl, behind⟩ := read
      obtain ⟨rfl, rfl⟩ := ih behind
      exact ⟨rfl, rfl⟩

theorem quotedWith_append_inj {first second before after : Text}
    (same : quotedWith escapeSingle first ++ before = quotedWith escapeSingle second ++ after) :
    first = second ∧ before = after := by
  simp only [quotedWith, List.cons_append, List.append_assoc, List.nil_append, List.cons.injEq,
    true_and] at same
  exact flatMap_quotedChar_inj same

end WorkflowDocs.Text
