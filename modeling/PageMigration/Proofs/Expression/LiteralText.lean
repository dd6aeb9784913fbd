import PageMigration.Expression.Chain
import PageMigration.Expression.Literal

/-!
# What literals hold

A literal stands between single quotes.  It holds characters other than quotes and backslashes,
and backslashes, each with a character that it hides.  The scan of a chain lets a backslash hide
every character, while the reader of expressions stops at a line feed behind a backslash.

## Main definitions

* `LiteralText` : the texts that stand between the quotes of a literal.
* `ClosesLiterals` : the texts that close every literal they open.
* `ChainState.after` : the state of the scan after a text.

## Main results

* `closeLiteral?_append` : the reader of expressions finds the end of a literal.
* `closesLiterals_iff` : a text closes its literals iff the scan of it ends outside.
-/

namespace PageMigration.Expression

/-- The texts that stand between the quotes of a literal in which a backslash may hide the
characters that satisfy `p`. -/
inductive LiteralText (p : Char → Prop) : List Char → Prop
  | nil : LiteralText p []
  | char {c : Char} {s : List Char} (hq : c ≠ '\'') (hb : c ≠ '\\') (h : LiteralText p s) :
      LiteralText p (c :: s)
  | escape {c : Char} {s : List Char} (hc : p c) (h : LiteralText p s) :
      LiteralText p ('\\' :: c :: s)

/-- A text without quotes and backslashes may stand in a literal. -/
theorem LiteralText.of_notMem {p : Char → Prop} {s : List Char} (hq : '\'' ∉ s) (hb : '\\' ∉ s) :
    LiteralText p s := by
  induction s with
  | nil => exact .nil
  | cons c s ih =>
      rw [List.mem_cons, not_or] at hq hb
      exact .char (Ne.symm hq.1) (Ne.symm hb.1) (ih hq.2 hb.2)

/-! ### Literals of expressions -/

/-- A literal ends at the quote behind its text. -/
theorem closeLiteral?_append {body : List Char} (h : LiteralText (· ≠ '\n') body)
    (rest : List Char) : closeLiteral? (body ++ '\'' :: rest) = some (body, rest) := by
  induction h with
  | nil =>
      unfold closeLiteral?
      simp
  | char hq hb _ ih =>
      unfold closeLiteral?
      simp [hq, hb, ih]
  | escape hc _ ih =>
      unfold closeLiteral?
      simp [hc, ih]

/-! ### Literals of chains -/

/-- The texts that close every literal they open. -/
inductive ClosesLiterals : List Char → Prop
  | nil : ClosesLiterals []
  | plain {c : Char} {s : List Char} (hc : c ≠ '\'') (h : ClosesLiterals s) :
      ClosesLiterals (c :: s)
  | literal {body s : List Char} (hb : LiteralText (fun _ => True) body) (h : ClosesLiterals s) :
      ClosesLiterals ('\'' :: body ++ '\'' :: s)

/-- The state of the scan after a text. -/
def ChainState.after (state : ChainState) (s : List Char) : ChainState :=
  s.foldl ChainState.step state

@[simp] theorem ChainState.after_nil (state : ChainState) : state.after [] = state := rfl

@[simp] theorem ChainState.after_cons (state : ChainState) (c : Char) (s : List Char) :
    state.after (c :: s) = (state.step c).after s := rfl

theorem ChainState.after_append (state : ChainState) (a b : List Char) :
    state.after (a ++ b) = (state.after a).after b :=
  List.foldl_append

/-- The scan stays inside a literal up to its closing quote. -/
theorem ChainState.after_literal {p : Char → Prop} {body : List Char} (h : LiteralText p body)
    (s : List Char) : ChainState.inside.after (body ++ '\'' :: s) = ChainState.outside.after s := by
  induction h with
  | nil => simp [ChainState.step]
  | char hq hb _ ih => simpa [ChainState.step, hq, hb] using ih
  | escape _ _ ih => simpa [ChainState.step] using ih

/-- A scan that comes out of a literal has read its text and its closing quote. -/
theorem exists_literal_of_after_inside {s : List Char}
    (h : ChainState.inside.after s = .outside) :
    ∃ body rest, s = body ++ '\'' :: rest ∧ LiteralText (fun _ => True) body ∧
      ChainState.outside.after rest = .outside := by
  match s with
  | [] => simp at h
  | c :: s =>
      by_cases hq : c = '\''
      · subst hq
        exact ⟨[], s, rfl, .nil, by simpa [ChainState.step] using h⟩
      by_cases hb : c = '\\'
      · subst hb
        match s with
        | [] => simp [ChainState.step] at h
        | d :: s =>
            obtain ⟨body, rest, rfl, hbody, hrest⟩ :=
              exists_literal_of_after_inside (s := s) (by simpa [ChainState.step] using h)
            exact ⟨'\\' :: d :: body, rest, rfl, .escape trivial hbody, hrest⟩
      · obtain ⟨body, rest, rfl, hbody, hrest⟩ :=
          exists_literal_of_after_inside (s := s) (by simpa [ChainState.step, hq, hb] using h)
        exact ⟨c :: body, rest, rfl, .char hq hb hbody, hrest⟩

theorem ClosesLiterals.after_outside {s : List Char} (h : ClosesLiterals s) :
    ChainState.outside.after s = .outside := by
  induction h with
  | nil => rfl
  | plain hc _ ih => simpa [ChainState.step, hc] using ih
  | literal hb _ ih => simpa [ChainState.step, ChainState.after_literal hb] using ih

theorem closesLiterals_of_after_outside {s : List Char}
    (h : ChainState.outside.after s = .outside) : ClosesLiterals s := by
  match s with
  | [] => exact .nil
  | c :: s =>
      by_cases hc : c = '\''
      · subst hc
        obtain ⟨body, rest, hs, hbody, hrest⟩ :=
          exists_literal_of_after_inside (s := s) (by simpa [ChainState.step] using h)
        have : rest.length < s.length := by simp [hs]; omega
        rw [hs]
        exact .literal hbody (closesLiterals_of_after_outside hrest)
      · exact .plain hc (closesLiterals_of_after_outside (by simpa [ChainState.step, hc] using h))
termination_by s.length

/-- **Closed literals.** A text closes its literals iff the scan of it ends outside. -/
theorem closesLiterals_iff {s : List Char} :
    ClosesLiterals s ↔ ChainState.outside.after s = .outside :=
  ⟨ClosesLiterals.after_outside, closesLiterals_of_after_outside⟩

/-- What follows a separator outside literals closes its literals. -/
theorem ClosesLiterals.of_append_semicolon {a b : List Char} (h : ClosesLiterals (a ++ ';' :: b))
    (ha : ChainState.outside.after a = .outside) : ClosesLiterals b := by
  have hafter := h.after_outside
  rw [ChainState.after_append, ha] at hafter
  exact closesLiterals_iff.mpr hafter

instance (s : List Char) : Decidable (ClosesLiterals s) :=
  decidable_of_iff _ closesLiterals_iff.symm

end PageMigration.Expression
