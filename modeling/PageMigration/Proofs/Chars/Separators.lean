import PageMigration.Chars.Search

/-!
# Pieces between separators

A text is cut at each separator, from left to right.  A separator of two different characters does
not overlap with itself, so pieces that do not hold it are found again between its occurrences, also
where a piece ends in the first character of the separator or begins with the second one.

## Main results

* `Chars.holds_iff` : a text that holds a piece.
* `Chars.splitOn_eq` : the pieces between copies of one character.
* `Chars.splitAtAll_intercalate` : pieces are found again between separators of two characters.
-/

namespace PageMigration.Chars

/-! ### Pieces of a text -/

theorem cutAt?_isSome_of_isInfix {piece s : List Char} (h : piece <:+: s) :
    (cutAt? piece s).isSome := by
  induction s with
  | nil =>
      rw [List.infix_nil.mp h]
      rfl
  | cons c s ih =>
      cases hstrip : stripStart? piece (c :: s) with
      | some rest => simp only [cutAt?, hstrip, Option.isSome_some]
      | none =>
          rcases List.infix_cons_iff.mp h with ⟨rest, hstart⟩ | hinner
          · cases hstrip.symm.trans (stripStart?_eq_some_iff.mpr hstart.symm)
          · simp only [cutAt?, hstrip, Option.isSome_map, ih hinner]

/-- A text holds a piece iff the piece occurs in it. -/
theorem holds_iff {piece s : List Char} : holds piece s ↔ piece <:+: s := by
  refine ⟨fun h => ?_, cutAt?_isSome_of_isInfix⟩
  obtain ⟨⟨a, b⟩, hcut⟩ := Option.isSome_iff_exists.mp h
  exact ⟨a, b, (eq_append_of_cutAt? hcut).symm⟩

/-! ### Separators of one character -/

theorem splitWhere_eq (p : Char → Bool) (s : List Char) : splitWhere p s = s.splitOnP p := by
  induction s with
  | nil => rfl
  | cons c s ih =>
      rw [splitWhere, ih, List.splitOnP_cons_eq_if_modifyHead]
      cases hpieces : s.splitOnP p with
      | nil => exact absurd hpieces (List.splitOnP_ne_nil p s)
      | cons piece rest => rfl

/-- The pieces of a text between copies of one character. -/
theorem splitOn_eq (sep : Char) (s : List Char) : splitOn sep s = s.splitOn sep :=
  splitWhere_eq (· == sep) s

/-! ### Separators of two characters -/

theorem splitAtFrom_cons {sep s piece : List Char} {c : Char} {rest : List (List Char)}
    (h : ¬ sep <+: c :: s) (hs : splitAtFrom sep 0 s = piece :: rest) :
    splitAtFrom sep 0 (c :: s) = (c :: piece) :: rest := by
  rw [splitAtFrom, if_neg (by rwa [List.isPrefixOf_iff_prefix]), hs]

section TwoCharacters

variable {a b : Char} {piece : List Char}

theorem splitAtAll_cons_cons (rest : List Char) :
    splitAtAll [a, b] (a :: b :: rest) = [] :: splitAtAll [a, b] rest := by
  simp [splitAtAll, splitAtFrom]

theorem splitAtAll_of_not_isInfix (h : ¬ [a, b] <:+: piece) :
    splitAtAll [a, b] piece = [piece] := by
  induction piece with
  | nil => rfl
  | cons c piece ih =>
      rw [List.infix_cons_iff, not_or] at h
      exact splitAtFrom_cons h.1 (ih h.2)

/-- The first separator ends a piece that does not hold it, whatever the last character of the
piece is. -/
theorem splitAtAll_append (hab : a ≠ b) (h : ¬ [a, b] <:+: piece) (rest : List Char) :
    splitAtAll [a, b] (piece ++ a :: b :: rest) = piece :: splitAtAll [a, b] rest := by
  induction piece with
  | nil => exact splitAtAll_cons_cons rest
  | cons c piece ih =>
      rw [List.infix_cons_iff, not_or] at h
      -- A separator at the start lies in the piece, or its second character is the first one of the
      -- separator behind the piece.
      refine splitAtFrom_cons (fun hstart => ?_) (ih h.2)
      obtain ⟨rfl, hnext⟩ := List.cons_prefix_cons.mp hstart
      cases piece with
      | nil => exact hab (List.cons_prefix_cons.mp hnext).1.symm
      | cons d piece =>
          obtain ⟨rfl, -⟩ := List.cons_prefix_cons.mp hnext
          exact h.1 ⟨piece, rfl⟩

/-- Pieces that do not hold a separator of two different characters are found again between its
occurrences. -/
theorem splitAtAll_intercalate (hab : a ≠ b) {pieces : List (List Char)} (hne : pieces ≠ [])
    (h : ∀ p ∈ pieces, ¬ [a, b] <:+: p) :
    splitAtAll [a, b] ([a, b].intercalate pieces) = pieces := by
  induction pieces with
  | nil => exact absurd rfl hne
  | cons p pieces ih =>
      rw [List.forall_mem_cons] at h
      cases pieces with
      | nil => rw [List.intercalate_singleton, splitAtAll_of_not_isInfix h.1]
      | cons q pieces =>
          rw [List.intercalate_cons_cons, List.append_assoc, List.cons_append, List.cons_append,
            List.nil_append, splitAtAll_append hab h.1, ih (List.cons_ne_nil q pieces) h.2]

end TwoCharacters

end PageMigration.Chars
