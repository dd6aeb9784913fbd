import PageMigration.Proofs.Expression.ProtectedText

/-!
# The protected text and its source

The segments of an expression stand behind two texts: the expression itself, in which a literal is
written with its quotes, and the protected text, in which a token stands in place of it.  Outside
the literals the two texts are the same, and the offset of a segment in the one leads to its offset
in the other.

## Main definitions

* `Segment.text`, `sourceText` : segments as they are written.

## Main results

* `sourceText_segments` : an expression is the source of its segments.
* `mem_protectedFrom_iff` : the protected text has the delimiters outside the literals.
* `originalOffset_spans` : the offset of a segment is found in the source.
* `exists_blanks_append` : the blanks that segments begin with are the same in both texts.
* `sourceText_isInfix_toList` : segments that follow each other are a piece of the expression.
-/

namespace PageMigration.Expression

open Chars (byteLength isBlank)

/-! ### The source -/

/-- A segment as it is written. -/
def Segment.text : Segment → List Char
  | .plain c => [c]
  | .literal body => '\'' :: body ++ ['\'']

/-- Segments as they are written. -/
def sourceText (pieces : List Segment) : List Char :=
  pieces.flatMap Segment.text

@[simp] theorem sourceText_nil : sourceText [] = [] := rfl

@[simp] theorem sourceText_cons (piece : Segment) (pieces : List Segment) :
    sourceText (piece :: pieces) = piece.text ++ sourceText pieces := rfl

@[simp] theorem sourceText_append (xs ys : List Segment) :
    sourceText (xs ++ ys) = sourceText xs ++ sourceText ys :=
  List.flatMap_append

@[simp] theorem sourceText_map_plain (s : List Char) : sourceText (s.map .plain) = s := by
  induction s with
  | nil => rfl
  | cons c s ih => simp [Segment.text, ih]

/-- A literal that is closed stands in front of what follows it. -/
theorem eq_append_of_closeLiteral? {s body rest : List Char}
    (h : closeLiteral? s = some (body, rest)) : s = body ++ '\'' :: rest := by
  fun_induction closeLiteral? s generalizing body rest with
  | case1 => cases h
  | case2 s =>
      cases h
      rfl
  | case3 => cases h
  | case4 => cases h
  | case5 d s _ _ ih =>
      obtain ⟨⟨b, r⟩, hb, heq⟩ := Option.map_eq_some_iff.mp h
      cases heq
      rw [ih hb]
      rfl
  | case6 c s _ _ ih =>
      obtain ⟨⟨b, r⟩, hb, heq⟩ := Option.map_eq_some_iff.mp h
      cases heq
      rw [ih hb]
      rfl

/-- An expression is the source of its segments. -/
@[simp] theorem sourceText_segments (s : List Char) : sourceText (segments s) = s := by
  fun_induction segments s with
  | case1 => rfl
  | case2 s body rest hclose ih => simp [Segment.text, ih, eq_append_of_closeLiteral? hclose]
  | case3 s hnone ih => simp [Segment.text, ih]
  | case4 c s hc ih => simp [Segment.text, ih]

theorem sourceText_isInfix {xs ys : List Segment} (h : xs <:+: ys) :
    sourceText xs <:+: sourceText ys := by
  obtain ⟨before, after, rfl⟩ := h
  exact ⟨sourceText before, sourceText after, by simp⟩

/-- The text of a literal is a piece of the expression. -/
theorem isInfix_of_mem_literals {pieces : List Segment} {body : List Char}
    (h : body ∈ literals pieces) : body <:+: sourceText pieces := by
  induction pieces with
  | nil => cases h
  | cons piece rest ih =>
      rw [sourceText_cons]
      cases piece with
      | plain c => exact (ih h).trans (List.suffix_append _ _).isInfix
      | literal body' =>
          rcases List.mem_cons.mp h with rfl | h
          · have hbody : body <:+: '\'' :: body ++ ['\''] := ⟨['\''], ['\''], rfl⟩
            exact hbody.trans (List.prefix_append _ _).isInfix
          · exact (ih h).trans (List.suffix_append _ _).isInfix

/-- Segments of a trimmed expression are a piece of the expression. -/
theorem sourceText_isInfix_toList {e : String} {part : List Segment}
    (h : part <:+: segments (Chars.trim e.toList)) : sourceText part <:+: e.toList := by
  have htrim := sourceText_isInfix h
  rw [sourceText_segments] at htrim
  exact htrim.trans (Chars.trim_isInfix _)

theorem body_isInfix {e : String} {body : List Char}
    (h : body ∈ literals (segments (Chars.trim e.toList))) : body <:+: e.toList :=
  (isInfix_of_mem_literals h).trans (sourceText_isInfix_toList List.infix_rfl)

/-- Segments without literals are the same in both texts. -/
theorem protectedFrom_eq_sourceText {pieces : List Segment} (h : literals pieces = []) (k : Nat) :
    protectedFrom k pieces = sourceText pieces := by
  induction pieces with
  | nil => rfl
  | cons piece rest ih =>
      cases piece with
      | plain c => simp [protectedFrom, Segment.text, ih h]
      | literal body => cases h

/-! ### Delimiters -/

/-- What is neither a quote nor a letter nor a digit is in no token. -/
theorem notMem_token {c : Char} (hq : c ≠ '\'') (hc : c.isAlphanum = false) (k : Nat) :
    c ∉ token k := fun h => by
  rcases of_mem_token h with h | h
  · exact hq h
  · rw [hc] at h
    cases h

/-- The protected text has a delimiter iff the segments have it outside their literals. -/
theorem mem_protectedFrom_iff {c : Char} (hc : ∀ k, c ∉ token k) {k : Nat}
    {pieces : List Segment} : c ∈ protectedFrom k pieces ↔ .plain c ∈ pieces := by
  induction pieces generalizing k with
  | nil => simp [protectedFrom]
  | cons piece rest ih => cases piece <;> simp [protectedFrom, ih, hc]

theorem notMem_protectedFrom {c : Char} (hc : ∀ k, c ∉ token k) {pieces : List Segment}
    (h : .plain c ∉ pieces) (k : Nat) : c ∉ protectedFrom k pieces :=
  fun hm => h ((mem_protectedFrom_iff hc).mp hm)

/-- The blanks that segments begin with are the same in both texts. -/
theorem exists_blanks_append (pieces : List Segment) : ∃ blanks rest,
    pieces = blanks.map .plain ++ rest ∧ (sourceText pieces).takeWhile isBlank = blanks ∧
      ∀ k, (protectedFrom k pieces).takeWhile isBlank = blanks := by
  induction pieces with
  | nil => exact ⟨[], [], rfl, rfl, fun _ => rfl⟩
  | cons piece rest ih =>
      cases piece with
      | literal body =>
          have hquote : isBlank '\'' = false := by decide
          exact ⟨[], _, rfl, by simp [Segment.text, hquote],
            fun k => by simp [protectedFrom, token_eq, hquote]⟩
      | plain c =>
          by_cases hc : isBlank c
          · obtain ⟨blanks, rest', hrest, hsource, hprotected⟩ := ih
            exact ⟨c :: blanks, rest', by simp [hrest], by simp [Segment.text, hc, hsource],
              fun k => by simp [protectedFrom, hc, hprotected]⟩
          · exact ⟨[], _, rfl, by simp [Segment.text, hc], fun k => by simp [protectedFrom, hc]⟩

/-! ### Offsets -/

/-- An offset at which no segment of the list has begun lies as far behind the last literal in the
source as in the protected text. -/
theorem originalOffsetFrom_of_le (k t e : Nat) {d d' : Nat} (h : d ≤ d') (pieces : List Segment) :
    originalOffsetFrom t e (t + d) (spansFrom k (t + d') (e + d') pieces) = e + d := by
  induction pieces generalizing d' with
  | nil => simp [spansFrom, originalOffsetFrom]
  | cons piece rest ih =>
      cases piece with
      | plain c =>
          rw [spansFrom, Nat.add_assoc, Nat.add_assoc]
          exact ih (Nat.le_add_right_of_le h)
      | literal body =>
          have htoken : 0 < byteLength (token k) := by
            simp only [token_eq, Chars.byteLength_append]
            exact Nat.lt_add_left _ (by decide)
          rw [spansFrom, originalOffsetFrom]
          dsimp only
          split
          · omega
          · rw [if_pos (by omega)]
            omega

/-- The offset behind some segments is found, where the last literal before them ends at `t` and
`e` and `d` bytes stand between it and them. -/
theorem originalOffsetFrom_spansFrom (k t e d : Nat) (xs ys : List Segment) :
    originalOffsetFrom t e (t + d + byteLength (protectedFrom k xs))
      (spansFrom k (t + d) (e + d) (xs ++ ys)) = e + d + byteLength (sourceText xs) := by
  induction xs generalizing k t e d with
  | nil => exact originalOffsetFrom_of_le k t e (Nat.le_refl d) ys
  | cons piece xs ih =>
      cases piece with
      | plain c =>
          have h := ih k t e (d + c.utf8Size)
          simpa [spansFrom, protectedFrom, Segment.text, Nat.add_assoc] using h
      | literal body =>
          have h := ih (k + 1) (t + d + byteLength (token k)) (e + d + byteLength body + 2) 0
          have hquote : ('\'' : Char).utf8Size = 1 := rfl
          rw [List.cons_append, spansFrom, originalOffsetFrom]
          simp only [protectedFrom, Chars.byteLength_append, sourceText_cons, Segment.text,
            Chars.byteLength_cons, Chars.byteLength_nil, List.cons_append, Nat.add_zero] at h ⊢
          rw [if_neg (by omega), if_neg (by omega), ← Nat.add_assoc, h, hquote]
          omega

/-- **Offsets lead back to the source.** The offset behind some segments in the protected text
leads to the offset behind them in the source. -/
theorem originalOffset_spans (xs ys : List Segment) :
    originalOffset (spans (xs ++ ys)) (byteLength (protectedText xs)) =
      byteLength (sourceText xs) := by
  have h := originalOffsetFrom_spansFrom 0 0 0 0 xs ys
  simpa [originalOffset, spans, protectedText] using h

end PageMigration.Expression
