import PageMigration.Proofs.Expression.TokenPlaces

/-!
# Cuts of a chain

A chain is cut in one walk that counts bytes and keeps two flags: whether it is in a literal, and
whether a backslash hides the next character.  Every cut is at the end of a character, and the
parts of the chain are what stands between the cuts.

## Main definitions

* `partRanges` : the walk, with the offsets between which the parts stand.

## Main results

* `exists_eq_append_of_byteLength_le` : a text with two beginnings.
* `StandsAt.of_append_right`, `StandsAt.of_append_left` : what stands in one of two texts in a row.
* `standsAt_partRanges` : the parts of a text stand between its cuts.
-/

namespace PageMigration.Expression

open Chars (byteLength)

variable {a b s : List Char}

/-! ### Places in a text -/

/-- A character of two texts with a semicolon between them belongs to one of the texts, or is the
semicolon. -/
theorem append_semicolon_eq_append_cons {before after : List Char} {c : Char}
    (h : a ++ ';' :: b = before ++ c :: after) :
    (∃ t, a = before ++ c :: t) ∨ (before = a ∧ c = ';') ∨
      ∃ t, before = a ++ ';' :: t ∧ b = t ++ c :: after := by
  rcases Chars.append_eq_append_cons h with ⟨t, ha, -⟩ | ⟨t, hbefore, hb⟩
  · exact Or.inl ⟨t, ha⟩
  · cases t with
    | nil => exact Or.inr (Or.inl ⟨by simpa using hbefore, (List.cons.inj hb).1.symm⟩)
    | cons d t =>
        obtain ⟨rfl, rfl⟩ := List.cons.inj hb
        exact Or.inr (Or.inr ⟨t, hbefore, rfl⟩)

theorem byteLength_lt_of_eq_append_cons {before t : List Char} {c : Char}
    (h : a = before ++ c :: t) : byteLength before < byteLength a := by
  have hsize := c.utf8Size_pos
  rw [h, Chars.byteLength_append, Chars.byteLength_cons]
  omega

/-- Of two beginnings of a text the longer one begins with the other. -/
theorem exists_eq_append_of_byteLength_le {x y : List Char} (h : a ++ x = b ++ y)
    (hle : byteLength a ≤ byteLength b) : ∃ t, b = a ++ t ∧ x = t ++ y := by
  rcases List.append_eq_append_iff.mp h with h | ⟨t, ha, hy⟩
  · exact h
  · cases t with
    | nil => exact ⟨[], by simpa using ha.symm, hy.symm⟩
    | cons c t => exact absurd (byteLength_lt_of_eq_append_cons ha) (Nat.not_lt.mpr hle)

namespace StandsAt

variable {start stop : Nat} {piece : List Char}

theorem stop_eq (h : StandsAt s start stop piece) : stop = start + byteLength piece := by
  obtain ⟨before, after, -, rfl, rfl⟩ := h
  exact Chars.byteLength_append ..

theorem stop_le (h : StandsAt s start stop piece) : stop ≤ byteLength s := by
  obtain ⟨before, after, rfl, -, rfl⟩ := h
  rw [Chars.byteLength_append (before ++ piece)]
  exact Nat.le_add_right ..

theorem append_right (h : StandsAt s start stop piece) (t : List Char) :
    StandsAt (s ++ t) start stop piece := by
  obtain ⟨before, after, rfl, hstart, hstop⟩ := h
  exact ⟨before, after ++ t, by simp, hstart, hstop⟩

theorem append_left (h : StandsAt s start stop piece) (t : List Char) :
    StandsAt (t ++ s) (byteLength t + start) (byteLength t + stop) piece := by
  obtain ⟨before, after, rfl, rfl, rfl⟩ := h
  exact ⟨t ++ before, after, by simp, by simp, by simp⟩

/-- What stops within the first of two texts stands in it. -/
theorem of_append_right {t : List Char} (h : StandsAt (s ++ t) start stop piece)
    (hle : stop ≤ byteLength s) : StandsAt s start stop piece := by
  obtain ⟨before, after, hs, hstart, rfl⟩ := h
  obtain ⟨inner, hs, -⟩ := exists_eq_append_of_byteLength_le hs.symm hle
  exact ⟨before, inner, hs, hstart, rfl⟩

/-- What starts behind the first of two texts stands in the second one. -/
theorem of_append_left {t : List Char}
    (h : StandsAt (t ++ s) (byteLength t + start) (byteLength t + stop) piece) :
    StandsAt s start stop piece := by
  obtain ⟨before, after, hs, hstart, hstop⟩ := h
  rw [List.append_assoc] at hs
  obtain ⟨inner, rfl, hs⟩ := exists_eq_append_of_byteLength_le hs (by omega)
  simp only [List.append_assoc, Chars.byteLength_append, Nat.add_left_cancel_iff] at hstart hstop
  exact ⟨inner, after, by simpa using hs, hstart, by rwa [Chars.byteLength_append]⟩

end StandsAt

/-! ### The walk over a text -/

/-- The flag for being in a literal. -/
def ChainState.inLiteral : ChainState → Bool
  | .outside => false
  | .inside | .escaped => true

/-- The flag for a backslash that hides the next character. -/
def ChainState.hides : ChainState → Bool
  | .outside | .inside => false
  | .escaped => true

/-- The ranges between the cuts of a text, in bytes, found with two flags.  The range that is open
begins at `start`, and the rest of the text at `offset`. -/
def partRangesFrom (inLiteral hides : Bool) (start offset : Nat) : List Char → List (Nat × Nat)
  | [] => [(start, offset)]
  | c :: s =>
      let next := offset + c.utf8Size
      if hides then partRangesFrom inLiteral false start next s
      else if c = '\\' ∧ inLiteral then partRangesFrom inLiteral true start next s
      else if c = '\'' then partRangesFrom (!inLiteral) false start next s
      else if c = ';' ∧ ¬ inLiteral then
        (start, offset) :: partRangesFrom inLiteral false (offset + 1) next s
      else partRangesFrom inLiteral false start next s

/-- The ranges between the cuts of a text. -/
def partRanges (s : List Char) : List (Nat × Nat) :=
  partRangesFrom false false 0 0 s

/-- A separator ends a range. -/
theorem partRangesFrom_semicolon (start offset : Nat) (s : List Char) :
    partRangesFrom ChainState.outside.inLiteral ChainState.outside.hides start offset (';' :: s) =
      (start, offset) :: partRangesFrom ChainState.outside.inLiteral ChainState.outside.hides
        (offset + 1) (offset + 1) s := by
  have hsize : ';'.utf8Size = 1 := rfl
  simp [partRangesFrom, ChainState.inLiteral, ChainState.hides, hsize]

/-- Every other character changes the flags and leaves the range open. -/
theorem partRangesFrom_cons {state : ChainState} {c : Char} (hc : ¬ (state = .outside ∧ c = ';'))
    (start offset : Nat) (s : List Char) :
    partRangesFrom state.inLiteral state.hides start offset (c :: s) =
      partRangesFrom (state.step c).inLiteral (state.step c).hides start (offset + c.utf8Size)
        s := by
  cases state with
  | outside =>
      by_cases hq : c = '\''
      · simp [partRangesFrom, ChainState.step, ChainState.inLiteral, ChainState.hides, hq]
      · have hsemi : c ≠ ';' := by simpa using hc
        simp [partRangesFrom, ChainState.step, ChainState.inLiteral, ChainState.hides, hq, hsemi]
  | inside =>
      by_cases hb : c = '\\'
      · simp [partRangesFrom, ChainState.step, ChainState.inLiteral, ChainState.hides, hb]
      · by_cases hq : c = '\'' <;>
          simp [partRangesFrom, ChainState.step, ChainState.inLiteral, ChainState.hides, hb, hq]
  | escaped => simp [partRangesFrom, ChainState.step, ChainState.inLiteral, ChainState.hides]

/-- The parts of the rest of a text stand between the cuts, the first one with what has been read
of it. -/
theorem standsAt_partRangesFrom {state : ChainState} {s x : List Char} {xs : List (List Char)}
    (h : chainParts state s = x :: xs) (before part : List Char) :
    List.Forall₂ (fun range piece => StandsAt (before ++ part ++ s) range.1 range.2 piece)
      (partRangesFrom state.inLiteral state.hides (byteLength before) (byteLength (before ++ part))
        s)
      ((part ++ x) :: xs) := by
  induction s generalizing state x xs before part with
  | nil =>
      obtain ⟨rfl, rfl⟩ := List.cons.inj h
      exact .cons ⟨before, [], by simp, rfl, by simp⟩ .nil
  | cons c s ih =>
      by_cases hc : state = .outside ∧ c = ';'
      · obtain ⟨rfl, rfl⟩ := hc
        obtain ⟨y, ys, hparts⟩ := exists_chainParts_eq_cons .outside s
        rw [chainParts_semicolon, hparts] at h
        obtain ⟨rfl, rfl⟩ := List.cons.inj h
        have hsize : ';'.utf8Size = 1 := rfl
        have hrest := ih hparts (before ++ part ++ [';']) []
        rw [partRangesFrom_semicolon]
        refine .cons ⟨before, ';' :: s, by simp, rfl, by simp⟩ ?_
        simpa [hsize, Nat.add_assoc] using hrest
      · obtain ⟨y, ys, hparts⟩ := exists_chainParts_eq_cons (state.step c) s
        rw [chainParts_cons hc hparts] at h
        obtain ⟨rfl, rfl⟩ := List.cons.inj h
        rw [partRangesFrom_cons hc]
        simpa [Nat.add_assoc] using ih hparts before (part ++ [c])

/-- **Cuts at ends of characters.** The parts of a text are what stands between its cuts. -/
theorem standsAt_partRanges (s : List Char) :
    List.Forall₂ (fun range part => StandsAt s range.1 range.2 part) (partRanges s)
      (chainParts .outside s) := by
  obtain ⟨x, xs, h⟩ := exists_chainParts_eq_cons .outside s
  rw [h]
  exact standsAt_partRangesFrom h [] []

example : partRanges "A('ü;'); B".toList = [(0, 8), (9, 11)] := by decide

end PageMigration.Expression
