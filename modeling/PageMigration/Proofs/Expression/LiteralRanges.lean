import Mathlib.Data.List.Basic
import PageMigration.Expression.Parser
import PageMigration.Proofs.Expression.ChainParts
import PageMigration.Proofs.Expression.ProtectedText

/-!
# Where literals stand

A chain is split by a scan that passes over its literals, and the reader of expressions replaces
literals by tokens.  The two look for literals in different ways, and they have to find the same
ones: a quote that only one of them takes for an opening quote pairs all later quotes differently.

They agree as long as no literal has a line feed behind a backslash.  The scan lets the backslash
hide the line feed, while the reader finds no literal there.

## Main definitions

* `literalRanges` : the places of the literals in the scan of a text.
* `LiteralSpan.range` : the place of a literal that the reader replaces.
* `hidesLineFeed` : the texts in which a literal has a line feed behind a backslash.
* `placedExpressions` : the expressions of a chain with the texts in front of them.

## Main results

* `literalRanges_eq_flatMap` : the literals of a chain are those of its expressions.
* `map_range_spans_eq_iff` : when the reader replaces the literals that the scan passes over.
* `literalRanges_of_splitChain` : the two together, for all expressions of a chain.
-/

namespace PageMigration.Expression

open Chars (blank trim isBlank byteLength)

/-! ### The scan -/

/-- The ranges of the literals in the scan of a text that begins at a byte offset.  Each one goes
from the opening quote up to the end of the closing quote.  A literal that is being read already
has begun at `start`. -/
def rangesFrom (state : ChainState) (start offset : Nat) : List Char → List (Nat × Nat)
  | [] => []
  | c :: s =>
      let start := if state = .outside then offset else start
      let next := offset + c.utf8Size
      let rest := rangesFrom (state.step c) start next s
      if state = .inside ∧ c = '\'' then (start, next) :: rest else rest

/-- The ranges of the literals of a text. -/
def literalRanges (s : List Char) : List (Nat × Nat) :=
  rangesFrom .outside 0 0 s

/-- A range behind so many bytes more. -/
def shiftRange (bytes : Nat) (range : Nat × Nat) : Nat × Nat :=
  (bytes + range.1, bytes + range.2)

section RangesFrom

variable {state : ChainState} {a b body s : List Char}

/-- Outside literals no literal has begun. -/
theorem rangesFrom_outside (start start' offset : Nat) (s : List Char) :
    rangesFrom .outside start offset s = rangesFrom .outside start' offset s := by
  cases s <;> rfl

theorem rangesFrom_plain {c : Char} (hc : c ≠ '\'') (start offset : Nat) (s : List Char) :
    rangesFrom .outside start offset (c :: s) =
      rangesFrom .outside start (offset + c.utf8Size) s := by
  have hstep : ChainState.outside.step c = .outside := by simp [ChainState.step, hc]
  simp only [rangesFrom, hstep, if_true, reduceCtorEq, false_and, if_false]
  exact rangesFrom_outside ..

/-- A literal is found at its closing quote. -/
theorem rangesFrom_body (h : LiteralText (fun _ => True) body) (start offset : Nat)
    (s : List Char) :
    rangesFrom .inside start offset (body ++ '\'' :: s) =
      (start, offset + byteLength body + 1) ::
        rangesFrom .outside start (offset + byteLength body + 1) s := by
  have hquote : '\''.utf8Size = 1 := rfl
  have hslash : '\\'.utf8Size = 1 := rfl
  induction h generalizing offset with
  | nil => simp [rangesFrom, ChainState.step, hquote]
  | char hq hb _ ih => simp [rangesFrom, ChainState.step, hq, hb, ih, Nat.add_assoc]
  | escape _ _ ih => simp [rangesFrom, ChainState.step, ih, hslash, Nat.add_assoc]

theorem rangesFrom_literal (h : LiteralText (fun _ => True) body) (start offset : Nat)
    (s : List Char) :
    rangesFrom .outside start offset ('\'' :: body ++ '\'' :: s) =
      (offset, offset + byteLength body + 2) ::
        rangesFrom .outside start (offset + byteLength body + 2) s := by
  have hquote : '\''.utf8Size = 1 := rfl
  have hopen : rangesFrom .outside start offset ('\'' :: body ++ '\'' :: s) =
      rangesFrom .inside offset (offset + 1) (body ++ '\'' :: s) := by
    simp [rangesFrom, ChainState.step, hquote]
  rw [hopen, rangesFrom_body h, rangesFrom_outside offset start,
    show offset + 1 + byteLength body + 1 = offset + byteLength body + 2 by omega]

/-- Where the scan is outside it can be taken up again. -/
theorem rangesFrom_append (ha : state.after a = .outside) (start offset : Nat) (b : List Char) :
    rangesFrom state start offset (a ++ b) =
      rangesFrom state start offset a ++ rangesFrom .outside 0 (offset + byteLength a) b := by
  induction a generalizing state start offset with
  | nil =>
      obtain rfl : state = .outside := ha
      exact rangesFrom_outside ..
  | cons c a ih =>
      have hrest (start offset : Nat) :
          rangesFrom (state.step c) start offset (a ++ b) =
            rangesFrom (state.step c) start offset a ++
              rangesFrom .outside 0 (offset + byteLength a) b := ih ha start offset
      simp only [List.cons_append, rangesFrom, hrest, Chars.byteLength_cons, Nat.add_assoc]
      split <;> simp

/-- A text without quotes has no literals. -/
theorem rangesFrom_of_notMem (h : '\'' ∉ s) (start offset : Nat) :
    rangesFrom .outside start offset s = [] := by
  induction s generalizing offset with
  | nil => rfl
  | cons c s ih =>
      rw [List.mem_cons, not_or] at h
      rw [rangesFrom_plain (Ne.symm h.1), ih h.2]

theorem rangesFrom_of_blank (h : blank s) (start offset : Nat) :
    rangesFrom .outside start offset s = [] :=
  rangesFrom_of_notMem (Chars.notMem_of_blank h (by decide)) start offset

theorem rangesFrom_add (bytes start offset : Nat) (s : List Char) :
    rangesFrom state (bytes + start) (bytes + offset) s =
      (rangesFrom state start offset s).map (shiftRange bytes) := by
  induction s generalizing state start offset with
  | nil => rfl
  | cons c s ih =>
      have hstart : (if state = .outside then bytes + offset else bytes + start) =
          bytes + if state = .outside then offset else start := by
        split <;> rfl
      simp only [rangesFrom, hstart, Nat.add_assoc, ih]
      split <;> simp [shiftRange]

/-- The literals of a text that stands behind so many bytes. -/
theorem rangesFrom_eq_map_literalRanges (start offset : Nat) (s : List Char) :
    rangesFrom .outside start offset s = (literalRanges s).map (shiftRange offset) := by
  rw [literalRanges, ← rangesFrom_add offset 0 0 s]
  exact rangesFrom_outside ..

end RangesFrom

/-! ### Trimmed texts -/

/-- Blanks do not lead out of a literal. -/
theorem ChainState.eq_outside_of_after_blank {state : ChainState} {s : List Char} (h : blank s)
    (ha : state.after s = .outside) : state = .outside := by
  induction s generalizing state with
  | nil => exact ha
  | cons c s ih =>
      have hquote : c ≠ '\'' := fun hq =>
        Chars.notMem_of_blank h (c := '\'') (by decide) (by simp [hq])
      have hslash : c ≠ '\\' := fun hb =>
        Chars.notMem_of_blank h (c := '\\') (by decide) (by simp [hb])
      have hs : blank s := by
        simp only [blank, List.all_cons, Bool.and_eq_true] at h
        exact h.2
      have hstep := ih hs ha
      cases state <;> simp_all [ChainState.step]

/-- A text that closes its literals does so without the blanks at its ends. -/
theorem ClosesLiterals.trim {s : List Char} (h : ClosesLiterals s) :
    ClosesLiterals (trim s) := by
  obtain ⟨b, hb, hs⟩ := Chars.exists_eq_append_trim s
  have hafter := h.after_outside
  rw [hs, ChainState.after_append, ChainState.after_append,
    ChainState.after_of_blank (Chars.blank_takeWhile s)] at hafter
  exact closesLiterals_iff.mpr (ChainState.eq_outside_of_after_blank hb hafter)

/-- Blanks around a text are outside its literals. -/
theorem rangesFrom_trim {s : List Char} (h : ClosesLiterals s) (start offset : Nat) :
    rangesFrom .outside start offset s =
      rangesFrom .outside 0 (offset + byteLength (s.takeWhile isBlank)) (trim s) := by
  obtain ⟨b, hb, hs⟩ := Chars.exists_eq_append_trim s
  have hlead := Chars.blank_takeWhile s
  have hbegin : ChainState.outside.after (s.takeWhile isBlank ++ trim s) = .outside := by
    rw [ChainState.after_append, ChainState.after_of_blank hlead, h.trim.after_outside]
  conv => lhs; rw [hs]
  rw [rangesFrom_append hbegin, rangesFrom_append (ChainState.after_of_blank hlead),
    rangesFrom_of_blank hlead, rangesFrom_of_blank hb, List.nil_append, List.append_nil]

/-! ### Expressions in their places -/

/-- The expressions that parts hold, each with the text in front of it, where `before` stands in
front of the first part. -/
def placedFrom (before : List Char) : List (List Char) → List (List Char × List Char)
  | [] => []
  | part :: rest =>
      let more := placedFrom (before ++ part ++ [';']) rest
      if (trim part).isEmpty then more else (before ++ part.takeWhile isBlank, trim part) :: more

/-- The expressions of a chain, each with the text in front of it. -/
def placedExpressions (chain : String) : List (List Char × List Char) :=
  placedFrom [] (chainParts .outside chain.toList)

theorem map_placedFrom (before : List Char) (parts : List (List Char)) :
    (placedFrom before parts).map (fun x => String.ofList x.2) = expressionsOf parts := by
  induction parts generalizing before with
  | nil => rfl
  | cons part rest ih =>
      rw [placedFrom, expressionsOf_cons, expressionsOf_singleton, ← ih (before ++ part ++ [';'])]
      by_cases hb : blank part
      · simp [hb, Chars.trim_of_blank hb]
      · have hne : (trim part).isEmpty = false := by simpa [Chars.trim_eq_nil_iff] using hb
        simp [hb, hne]

theorem mem_placedFrom {before : List Char} {parts : List (List Char)}
    {x : List Char × List Char} (h : x ∈ placedFrom before parts) :
    ∃ part ∈ parts, x.2 = trim part := by
  induction parts generalizing before with
  | nil => cases h
  | cons part rest ih =>
      rw [placedFrom] at h
      split at h
      · obtain ⟨part', hmem, hx⟩ := ih h
        exact ⟨part', List.mem_cons_of_mem part hmem, hx⟩
      · rcases List.mem_cons.mp h with rfl | h
        · exact ⟨part, List.mem_cons_self, rfl⟩
        · obtain ⟨part', hmem, hx⟩ := ih h
          exact ⟨part', List.mem_cons_of_mem part hmem, hx⟩

/-- The expressions of a text stand in it where they are placed. -/
theorem prefix_of_mem_placedFrom {before s : List Char} {x : List Char × List Char}
    (h : x ∈ placedFrom before (chainParts .outside s)) : x.1 ++ x.2 <+: before ++ s := by
  have hpart {before part : List Char} {more : List (List Char × List Char)} (rest : List Char)
      (h : x ∈ if (trim part).isEmpty then more
        else (before ++ part.takeWhile isBlank, trim part) :: more) :
      x ∈ more ∨ x.1 ++ x.2 <+: before ++ part ++ rest := by
    split at h
    · exact Or.inl h
    · rcases List.mem_cons.mp h with rfl | h
      · obtain ⟨b, -, hb⟩ := Chars.exists_eq_append_trim part
        refine Or.inr ⟨b ++ rest, ?_⟩
        conv => rhs; rw [hb]
        simp
      · exact Or.inl h
  induction s using chainParts_induction generalizing before with
  | single s hs =>
      rw [hs, placedFrom] at h
      rcases hpart [] h with h | h
      · simp [placedFrom] at h
      · simpa using h
  | semicolon a b ha hparts ih =>
      rw [chainParts_append_semicolon b ha, hparts, List.singleton_append, placedFrom] at h
      rcases hpart (';' :: b) h with h | h
      · simpa using ih h
      · simpa using h

/-- The literals of a text are those of the expressions that its parts hold. -/
theorem rangesFrom_chainParts {s : List Char} (h : ClosesLiterals s) (before : List Char)
    (start : Nat) :
    rangesFrom .outside start (byteLength before) s =
      (placedFrom before (chainParts .outside s)).flatMap fun x =>
        (literalRanges x.2).map (shiftRange (byteLength x.1)) := by
  have hpart {before part : List Char} (hp : ClosesLiterals part) (start : Nat)
      (more : List (List Char × List Char)) :
      (if (trim part).isEmpty then more
        else (before ++ part.takeWhile isBlank, trim part) :: more).flatMap
          (fun x => (literalRanges x.2).map (shiftRange (byteLength x.1))) =
        rangesFrom .outside start (byteLength before) part ++ more.flatMap
          (fun x => (literalRanges x.2).map (shiftRange (byteLength x.1))) := by
    rw [rangesFrom_trim hp, rangesFrom_eq_map_literalRanges, ← Chars.byteLength_append]
    by_cases hb : (trim part).isEmpty
    · rw [if_pos hb, List.isEmpty_iff.mp hb]
      rfl
    · rw [if_neg hb, List.flatMap_cons]
  induction s using chainParts_induction generalizing before start with
  | single s hs =>
      rw [hs, placedFrom, hpart h start]
      simp [placedFrom]
  | semicolon a b ha hparts ih =>
      rw [chainParts_append_semicolon b ha, hparts, List.singleton_append, placedFrom,
        hpart (closesLiterals_iff.mpr ha) start, ← ih (h.of_append_semicolon ha) _ 0,
        rangesFrom_append ha, rangesFrom_plain (by decide)]
      simp [Nat.add_assoc]

/-- **Literals of expressions.** The literals that the scan of a chain finds are those that the
scan of its expressions finds, one expression after the other. -/
theorem literalRanges_eq_flatMap {chain : String} (h : ClosesLiterals chain.toList) :
    literalRanges chain.toList = (placedExpressions chain).flatMap fun x =>
      (literalRanges x.2).map (shiftRange (byteLength x.1)) :=
  rangesFrom_chainParts h [] 0

/-- The parts of a text that closes its literals close theirs and are one part each. -/
theorem of_mem_chainParts {s part : List Char} (hs : ClosesLiterals s)
    (h : part ∈ chainParts .outside s) :
    ClosesLiterals part ∧ chainParts .outside part = [part] := by
  induction s using chainParts_induction with
  | single s hsingle =>
      rw [hsingle, List.mem_singleton] at h
      exact h ▸ ⟨hs, hsingle⟩
  | semicolon a b ha hparts ih =>
      rw [chainParts_append_semicolon b ha, hparts, List.singleton_append, List.mem_cons] at h
      rcases h with rfl | h
      · exact ⟨closesLiterals_iff.mpr ha, hparts⟩
      · exact ih (hs.of_append_semicolon ha) h

/-- A part stays one part without the blanks at its ends. -/
theorem chainParts_trim {s : List Char} (h : chainParts .outside s = [s]) :
    chainParts .outside (trim s) = [trim s] := by
  rw [chainParts_eq_singleton_iff] at h ⊢
  intro a b htrim ha
  obtain ⟨tail, -, hs⟩ := Chars.exists_eq_append_trim s
  refine h (s.takeWhile isBlank ++ a) (b ++ tail) ?_ ?_
  · conv => lhs; rw [hs, htrim]
    simp
  · rw [ChainState.after_append, ChainState.after_of_blank (Chars.blank_takeWhile s), ha]

/-! ### The reader of expressions -/

/-- A text in which a literal has a line feed behind a backslash. -/
def hidesLineFeed (state : ChainState) : List Char → Bool
  | [] => false
  | c :: s => (state = .escaped && c = '\n') || hidesLineFeed (state.step c) s

/-- The range of a literal with its quotes. -/
def LiteralSpan.range (span : LiteralSpan) : Nat × Nat :=
  (span.start, span.stop)

section Reader

variable {body s : List Char}

theorem hidesLineFeed_plain {c : Char} (hc : c ≠ '\'') :
    hidesLineFeed .outside (c :: s) = hidesLineFeed .outside s := by
  simp [hidesLineFeed, ChainState.step, hc]

/-- A line feed that a literal hides is in its text or in a literal behind it. -/
theorem hidesLineFeed_body (h : LiteralText (fun _ => True) body) :
    hidesLineFeed .inside (body ++ '\'' :: s) = false ↔
      LiteralText (· ≠ '\n') body ∧ hidesLineFeed .outside s = false := by
  induction h with
  | nil => simp [hidesLineFeed, ChainState.step, LiteralText.nil]
  | @char c body hq hb _ ih =>
      have htext : LiteralText (· ≠ '\n') (c :: body) ↔ LiteralText (· ≠ '\n') body :=
        ⟨fun h => by cases h with | char _ _ h => exact h | escape => exact absurd rfl hb,
          .char hq hb⟩
      simpa [hidesLineFeed, ChainState.step, hq, hb, htext] using ih
  | @escape c body _ _ ih =>
      have htext : LiteralText (· ≠ '\n') ('\\' :: c :: body) ↔
          c ≠ '\n' ∧ LiteralText (· ≠ '\n') body :=
        ⟨fun h => by cases h with | char _ hb => exact absurd rfl hb | escape hc h => exact ⟨hc, h⟩,
          fun h => .escape h.1 h.2⟩
      simpa [hidesLineFeed, ChainState.step, htext, and_assoc] using fun _ => ih

theorem hidesLineFeed_literal (h : LiteralText (fun _ => True) body) :
    hidesLineFeed .outside ('\'' :: body ++ '\'' :: s) = false ↔
      LiteralText (· ≠ '\n') body ∧ hidesLineFeed .outside s = false := by
  rw [← hidesLineFeed_body h]
  simp [hidesLineFeed, ChainState.step]

/-- The reader finds no literal where a line feed would be hidden. -/
theorem closeLiteral?_eq_none (h : LiteralText (fun _ => True) body)
    (hn : ¬ LiteralText (· ≠ '\n') body) : closeLiteral? (body ++ '\'' :: s) = none := by
  induction h with
  | nil => exact absurd .nil hn
  | char hq hb _ ih =>
      have hrest := ih fun h => hn (.char hq hb h)
      unfold closeLiteral?
      simp [hq, hb, hrest]
  | @escape c _ _ _ ih =>
      unfold closeLiteral?
      by_cases hc : c = '\n'
      · simp [hc]
      · have hrest := ih fun h => hn (.escape hc h)
        simp [hc, hrest]

/-- The literals that the reader finds behind an offset begin there or later. -/
theorem le_of_mem_spansFrom {k t e : Nat} {pieces : List Segment} {span : LiteralSpan}
    (h : span ∈ spansFrom k t e pieces) : e ≤ span.start := by
  induction pieces generalizing k t e with
  | nil => cases h
  | cons piece rest ih =>
      cases piece with
      | plain c => exact Nat.le_of_add_right_le (ih h)
      | literal body =>
          rcases List.mem_cons.mp h with rfl | h
          · exact Nat.le_refl e
          · have := ih h
            omega

/-- **The two scans.** In a text that closes its literals the reader finds the literals that the
scan finds iff none of them hides a line feed. -/
theorem map_range_spansFrom_eq_iff (h : ClosesLiterals s) (k t e start : Nat) :
    (spansFrom k t e (segments s)).map LiteralSpan.range = rangesFrom .outside start e s ↔
      hidesLineFeed .outside s = false := by
  induction h generalizing k t e start with
  | nil => simp [segments, spansFrom, rangesFrom, hidesLineFeed]
  | @plain c s hc _ ih =>
      have hsegments : segments (c :: s) = .plain c :: segments s := by
        rw [segments, if_neg hc]
      rw [hsegments, spansFrom, rangesFrom_plain hc, hidesLineFeed_plain hc, ih]
  | @literal body s hb _ ih =>
      rw [rangesFrom_literal hb, hidesLineFeed_literal hb]
      by_cases htext : LiteralText (· ≠ '\n') body
      · have hsegments : segments ('\'' :: body ++ '\'' :: s) = .literal body :: segments s := by
          simpa using splits_literal htext s
        rw [hsegments, spansFrom, List.map_cons, List.cons_eq_cons, ih]
        simp [LiteralSpan.range, htext]
      · -- The reader takes the opening quote for a character, so all its literals begin later.
        have hsegments : segments ('\'' :: body ++ '\'' :: s) =
            .plain '\'' :: segments (body ++ '\'' :: s) := by
          rw [List.cons_append, segments, if_pos rfl]
          split
          · next heq => cases (closeLiteral?_eq_none hb htext).symm.trans heq
          · rfl
        rw [hsegments, spansFrom]
        refine ⟨fun heq => ?_, fun hn => absurd hn.1 htext⟩
        obtain ⟨span, hspan, hrange⟩ := List.mem_map.mp (heq ▸ List.mem_cons_self)
        have hle := le_of_mem_spansFrom hspan
        have hstart : span.start = e := congrArg Prod.fst hrange
        have hquote : '\''.utf8Size = 1 := rfl
        omega

theorem map_range_spans_eq_iff (h : ClosesLiterals s) :
    (spans (segments s)).map LiteralSpan.range = literalRanges s ↔
      hidesLineFeed .outside s = false :=
  map_range_spansFrom_eq_iff h 0 0 0 0

/-- No separator is left in the protected text of one part. -/
theorem semicolon_notMem_protectedFrom (h : ClosesLiterals s)
    (hs : chainParts .outside s = [s]) (hn : hidesLineFeed .outside s = false) (k : Nat) :
    ';' ∉ protectedFrom k (segments s) := by
  have htail {a b : List Char} (ha : ChainState.outside.after a = .outside)
      (h : chainParts .outside (a ++ b) = [a ++ b]) : chainParts .outside b = [b] := by
    rw [chainParts_eq_singleton_iff] at h ⊢
    rintro x y rfl hx
    exact h (a ++ x) y (by simp) (by rw [ChainState.after_append, ha, hx])
  induction h generalizing k with
  | nil => simp [segments, protectedFrom]
  | @plain c s hc _ ih =>
      have hstep : ChainState.outside.after [c] = .outside := by simp [ChainState.step, hc]
      have hsep : ';' ≠ c := fun hsep =>
        chainParts_eq_singleton_iff.mp hs [] s (by rw [hsep]; rfl) rfl
      have hrest := ih (htail hstep hs) (hidesLineFeed_plain hc ▸ hn) k
      rw [segments, if_neg hc, protectedFrom]
      exact List.not_mem_cons_of_ne_of_not_mem hsep hrest
  | @literal body s hb _ ih =>
      obtain ⟨htext, hn⟩ := (hidesLineFeed_literal hb).mp hn
      have hsegments : segments ('\'' :: body ++ '\'' :: s) = .literal body :: segments s := by
        simpa using splits_literal htext s
      have hclosed : ChainState.outside.after ('\'' :: body ++ ['\'']) = .outside :=
        (ClosesLiterals.literal hb .nil).after_outside
      have hrest := ih (htail hclosed (by simpa using hs)) hn (k + 1)
      rw [hsegments, protectedFrom, List.mem_append, not_or]
      refine ⟨fun htoken => ?_, hrest⟩
      rcases of_mem_token htoken with h | h <;> revert h <;> decide

end Reader

/-! ### Both together -/

/-- **The literals of a chain.** The expressions of a chain that closes its literals stand in it one
after the other, and the literals that the scan of the chain finds are those of the expressions.
In each expression they are exactly the ones that the reader replaces, unless one of them hides a
line feed; the text that the reader goes on with then has no semicolon. -/
theorem literalRanges_of_splitChain {chain : String} (h : ClosesLiterals chain.toList) :
    (placedExpressions chain).map (fun x => String.ofList x.2) = splitChain chain ∧
    (∀ x ∈ placedExpressions chain, x.1 ++ x.2 <+: chain.toList) ∧
    literalRanges chain.toList = (placedExpressions chain).flatMap (fun x =>
      (literalRanges x.2).map (shiftRange (byteLength x.1))) ∧
    ∀ x ∈ placedExpressions chain,
      ((spans (segments x.2)).map LiteralSpan.range = literalRanges x.2 ↔
        hidesLineFeed .outside x.2 = false) ∧
      (hidesLineFeed .outside x.2 = false → ';' ∉ protectedText (segments x.2)) := by
  refine ⟨map_placedFrom .., fun x hx => prefix_of_mem_placedFrom hx,
    literalRanges_eq_flatMap h, fun x hx => ?_⟩
  obtain ⟨part, hpart, htrim⟩ := mem_placedFrom hx
  obtain ⟨hclosed, hsingle⟩ := of_mem_chainParts h hpart
  rw [htrim]
  exact ⟨map_range_spans_eq_iff hclosed.trim, fun hn =>
    semicolon_notMem_protectedFrom hclosed.trim (chainParts_trim hsingle) hn 0⟩

/-- A semicolon, an escaped quote and a line feed stand in the literals of two expressions. -/
theorem literalRanges_of_splitChain_of_escapes :
    let chain := "A('x;\\'y'); B(c, 'z\n')"
    let pieces := [([], "A('x;\\'y')".toList), ("A('x;\\'y'); ".toList, "B(c, 'z\n')".toList)]
    ClosesLiterals chain.toList ∧ placedExpressions chain = pieces ∧
      splitChain chain = ["A('x;\\'y')", "B(c, 'z\n')"] ∧
      literalRanges chain.toList = [(2, 9), (17, 21)] ∧
      ∀ x ∈ pieces, (spans (segments x.2)).map LiteralSpan.range = literalRanges x.2 ∧
        ';' ∉ protectedText (segments x.2) := by
  intro chain pieces
  have hclosed : ClosesLiterals chain.toList := by decide
  have hplaced : placedExpressions chain = pieces := by decide
  obtain ⟨hsplit, -, hranges, hpieces⟩ := literalRanges_of_splitChain hclosed
  rw [hplaced] at hsplit hranges hpieces
  refine ⟨hclosed, hplaced, by rw [← hsplit]; decide, by rw [hranges]; decide, fun x hx => ?_⟩
  have hhides : ∀ x ∈ pieces, hidesLineFeed .outside x.2 = false := by decide
  exact ⟨(hpieces x hx).1.mpr (hhides x hx), (hpieces x hx).2 (hhides x hx)⟩

/-- A literal that hides a line feed is passed over by the scan and not seen by the reader, which
then takes the equality sign in it for the end of an output name. -/
theorem literalRanges_of_hidden_line_feed :
    let chain := "StaticString('a;\\\n=b')"
    let scope : Scope := { declared := [], unit := { typeName := "Text", kind := .clientSide } }
    ClosesLiterals chain.toList ∧ splitChain chain = [chain] ∧
      literalRanges chain.toList = [(13, 21)] ∧
      (spans (segments chain.toList)).map LiteralSpan.range = [] ∧
      parseCall scope chain = .error ⟨.missingParenthesis chain, 22, chain⟩ := by
  intro chain scope
  exact ⟨by decide, by decide, by decide, by decide +kernel, by decide +kernel⟩

end PageMigration.Expression
