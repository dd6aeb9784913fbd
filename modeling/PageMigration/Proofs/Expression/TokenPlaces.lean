import Mathlib.Data.Nat.Basic
import Mathlib.Order.Monotone.Defs
import Mathlib.Tactic.SplitIfs
import PageMigration.Proofs.Encoding.PlainEnd
import PageMigration.Proofs.Expression.LiteralRanges
import PageMigration.Proofs.Expression.SourceText

/-!
# Places of tokens

In the protected text of an expression each literal is a token, and its span tells where the token
and the literal stand, in bytes.  Between the spans both texts are the same.  The expression is
therefore restored by putting its literals back, and every offset outside the tokens leads to the
same character of the expression.

The places are found in one walk over the literals with two running lengths, and an offset is led
back by a walk over the spans.  Both subtract lengths, and neither can go below zero.

## Main definitions

* `StandsAt` : a piece of a text between two offsets.
* `Aligned` : spans between which two texts have the same lengths.
* `restored` : the protected text with the literals put back.
* `runningSpans?`, `checkedOffset?` : the two walks, with each subtraction checked.

## Main results

* `exists_of_getElem?_spansFrom` : what a span tells.
* `restoredFrom_spansFrom` : the expression is restored.
* `Aligned.originalOffsetFrom_lt` : the order of offsets.
* `protectedText_in_place` : the places of the tokens altogether.
-/

namespace PageMigration.Expression

open Chars (byteLength)

/-! ### Spans of literals -/

/-- `StandsAt s start stop piece` says that `piece` is what a text has between two offsets, which
are ends of characters. -/
def StandsAt (s : List Char) (start stop : Nat) (piece : List Char) : Prop :=
  ∃ before after, s = before ++ piece ++ after ∧ byteLength before = start ∧
    byteLength (before ++ piece) = stop

theorem byteLength_text_literal (body : List Char) :
    byteLength (Segment.text (.literal body)) = byteLength body + 2 := by
  have hquote : ('\'' : Char).utf8Size = 1 := rfl
  simp only [Segment.text, Chars.byteLength_append, Chars.byteLength_cons, Chars.byteLength_nil,
    hquote]
  omega

/-- A span is that of a literal, which follows as many bytes of both texts as the pieces before it
have. -/
theorem exists_of_getElem?_spansFrom {k t e i : Nat} {pieces : List Segment} {span : LiteralSpan}
    (h : (spansFrom k t e pieces)[i]? = some span) : ∃ xs body ys,
    pieces = xs ++ .literal body :: ys ∧ (literals xs).length = i ∧
      span.tokenStart = t + byteLength (protectedFrom k xs) ∧
      span.tokenStop = span.tokenStart + byteLength (token (k + i)) ∧
      span.start = e + byteLength (sourceText xs) ∧
      span.stop = span.start + byteLength body + 2 := by
  induction pieces generalizing k t e i with
  | nil => simp [spansFrom] at h
  | cons piece rest ih =>
      cases piece with
      | plain c =>
          obtain ⟨xs, body, ys, rfl, hcount, htoken, hstop, hstart, hend⟩ := ih h
          refine ⟨.plain c :: xs, body, ys, rfl, hcount, ?_, hstop, ?_, hend⟩
          · simp [htoken, protectedFrom, Nat.add_assoc]
          · simp [hstart, Segment.text, Nat.add_assoc]
      | literal body =>
          cases i with
          | zero =>
              obtain rfl := Option.some.inj h
              exact ⟨[], body, rest, rfl, rfl, rfl, rfl, rfl, rfl⟩
          | succ i =>
              obtain ⟨xs, body', ys, rfl, hcount, htoken, hstop, hstart, hend⟩ := ih h
              refine ⟨.literal body :: xs, body', ys, rfl, by simp [literals, hcount], ?_, ?_, ?_,
                hend⟩
              · simp [htoken, protectedFrom, Nat.add_assoc]
              · rw [hstop, show k + 1 + i = k + (i + 1) by omega]
              · rw [hstart, sourceText_cons, Chars.byteLength_append, byteLength_text_literal,
                  ← Nat.add_assoc, ← Nat.add_assoc]

theorem length_spansFrom (k t e : Nat) (pieces : List Segment) :
    (spansFrom k t e pieces).length = (literals pieces).length := by
  induction pieces generalizing k t e with
  | nil => rfl
  | cons piece rest ih => cases piece <;> simp [spansFrom, literals, ih]

theorem byteLength_token_pos (k : Nat) : 0 < byteLength (token k) := by
  simp only [token_eq, Chars.byteLength_append]
  exact Nat.lt_add_left _ (by decide)

/-! ### Aligned spans -/

/-- Spans in increasing order, which stand as far behind each other in one text as in the other.
The last span before them ends at `t` and `e`. -/
inductive Aligned : Nat → Nat → List LiteralSpan → Prop
  | nil {t e : Nat} : Aligned t e []
  | cons {t e gap : Nat} {span : LiteralSpan} {rest : List LiteralSpan}
      (htoken : span.tokenStart = t + gap) (hstart : span.start = e + gap)
      (htokenStop : span.tokenStart < span.tokenStop) (hstop : span.start < span.stop)
      (h : Aligned span.tokenStop span.stop rest) : Aligned t e (span :: rest)

theorem aligned_spansFrom (k t e d : Nat) (pieces : List Segment) :
    Aligned t e (spansFrom k (t + d) (e + d) pieces) := by
  induction pieces generalizing k t e d with
  | nil => exact .nil
  | cons piece rest ih =>
      cases piece with
      | plain c =>
          rw [spansFrom, Nat.add_assoc, Nat.add_assoc]
          exact ih k t e (d + c.utf8Size)
      | literal body =>
          have hrest := ih (k + 1) (t + d + byteLength (token k)) (e + d + byteLength body + 2) 0
          have htokenStop : t + d < t + d + byteLength (token k) :=
            Nat.lt_add_of_pos_right (byteLength_token_pos k)
          have hstop : e + d < e + d + byteLength body + 2 := by omega
          simp only [Nat.add_zero] at hrest
          rw [spansFrom]
          exact .cons (show _ = t + d from rfl) rfl htokenStop hstop hrest

namespace Aligned

variable {t e p q : Nat} {spans : List LiteralSpan}

theorem le_of_mem (h : Aligned t e spans) {span : LiteralSpan} (hspan : span ∈ spans) :
    t ≤ span.tokenStart ∧ e ≤ span.start := by
  induction h with
  | nil => cases hspan
  | @cons t e gap first rest htoken hstart htokenStop hstop _ ih =>
      rcases List.mem_cons.mp hspan with rfl | hspan
      · omega
      · have := ih hspan
        omega

/-- Spans are disjoint and in increasing order in both texts. -/
theorem pairwise (h : Aligned t e spans) :
    spans.Pairwise fun a b => a.tokenStop ≤ b.tokenStart ∧ a.stop ≤ b.start := by
  induction h with
  | nil => exact .nil
  | cons _ _ _ _ hrest ih => exact .cons (fun b hb => hrest.le_of_mem hb) ih

theorem le_originalOffsetFrom (h : Aligned t e spans) (p : Nat) :
    e ≤ originalOffsetFrom t e p spans := by
  induction h with
  | nil => exact Nat.le_add_right ..
  | cons htoken hstart htokenStop hstop _ ih =>
      rw [originalOffsetFrom]
      split_ifs <;> omega

end Aligned

/-- An offset in the protected text that is not inside a token; the two ends of a token count as
outside. -/
def OutsideTokens (spans : List LiteralSpan) (p : Nat) : Prop :=
  ∀ span ∈ spans, p ≤ span.tokenStart ∨ span.tokenStop ≤ p

/-- Offsets outside the tokens keep their order. -/
theorem Aligned.originalOffsetFrom_lt {t e p q : Nat} {spans : List LiteralSpan}
    (h : Aligned t e spans) (ht : t ≤ p) (hpq : p < q) (hp : OutsideTokens spans p)
    (hq : OutsideTokens spans q) :
    originalOffsetFrom t e p spans < originalOffsetFrom t e q spans := by
  induction h with
  | nil =>
      simp only [originalOffsetFrom]
      omega
  | @cons t e gap span rest htoken hstart htokenStop hstop hrest ih =>
      rw [OutsideTokens, List.forall_mem_cons] at hp hq
      have hbehind := hrest.le_originalOffsetFrom q
      rw [originalOffsetFrom, originalOffsetFrom]
      by_cases hstop : p < span.tokenStop
      · -- The first offset is before the token or at its beginning.
        split_ifs <;> omega
      · rw [if_neg (by omega), if_neg hstop, if_neg (by omega), if_neg (by omega)]
        exact ih (Nat.le_of_not_lt hstop) hp.2 hq.2

/-! ### Characters outside tokens -/

/-- A character of the protected text is in a token, or it is one that stands outside the
literals. -/
theorem exists_of_protectedFrom_eq {k t e : Nat} {pieces : List Segment} {before after : List Char}
    {c : Char} (h : protectedFrom k pieces = before ++ c :: after) :
    (∃ xs ys, pieces = xs ++ .plain c :: ys ∧ protectedFrom k xs = before) ∨
      ∃ span ∈ spansFrom k t e pieces,
        span.tokenStart ≤ t + byteLength before ∧ t + byteLength before < span.tokenStop := by
  induction pieces generalizing k t e before with
  | nil => simp [protectedFrom] at h
  | cons piece rest ih =>
      cases piece with
      | plain d =>
          rw [protectedFrom] at h
          cases before with
          | nil =>
              obtain ⟨rfl, -⟩ := List.cons.inj h
              exact Or.inl ⟨[], rest, rfl, rfl⟩
          | cons b before =>
              obtain ⟨hd, hrest⟩ := List.cons.inj h
              subst hd
              rcases ih (t := t + d.utf8Size) (e := e + d.utf8Size) hrest with
                ⟨xs, ys, rfl, rfl⟩ | ⟨span, hspan, hin⟩
              · exact Or.inl ⟨.plain d :: xs, ys, rfl, rfl⟩
              · exact Or.inr ⟨span, hspan, by rwa [Chars.byteLength_cons, ← Nat.add_assoc]⟩
      | literal body =>
          rw [protectedFrom] at h
          have hbehind {before : List Char}
              (h : protectedFrom (k + 1) rest = before ++ c :: after) :
              (∃ xs ys, .literal body :: rest = xs ++ .plain c :: ys ∧
                protectedFrom k xs = token k ++ before) ∨
              ∃ span ∈ spansFrom k t e (.literal body :: rest),
                span.tokenStart ≤ t + byteLength (token k ++ before) ∧
                  t + byteLength (token k ++ before) < span.tokenStop := by
            rcases ih (t := t + byteLength (token k)) (e := e + byteLength body + 2) h with
              ⟨xs, ys, rfl, rfl⟩ | ⟨span, hspan, hin⟩
            · exact Or.inl ⟨.literal body :: xs, ys, rfl, rfl⟩
            · refine Or.inr ⟨span, List.mem_cons_of_mem _ hspan, ?_⟩
              rwa [Chars.byteLength_append, ← Nat.add_assoc]
          rcases Chars.append_eq_append_cons h with ⟨inner, htoken, -⟩ | ⟨between, hbefore, hrest⟩
          · refine Or.inr ⟨_, List.mem_cons_self, Nat.le_add_right .., ?_⟩
            have hsize := c.utf8Size_pos
            dsimp only
            rw [htoken, Chars.byteLength_append, Chars.byteLength_cons]
            omega
          · rw [hbefore]
            exact hbehind hrest

/-! ### The expression restored -/

theorem length_encode_ofList (s : List Char) :
    (Utf8.encode (String.ofList s)).length = byteLength s := by
  rw [Utf8.encode_ofList]
  induction s with
  | nil => rfl
  | cons c s ih => simp [ih]

/-- The bytes between two offsets are those of what stands there. -/
theorem StandsAt.extract_encode {s piece : List Char} {start stop : Nat}
    (h : StandsAt s start stop piece) :
    (Utf8.encode (String.ofList s)).extract start stop = Utf8.encode (String.ofList piece) := by
  obtain ⟨before, after, rfl, rfl, rfl⟩ := h
  rw [Utf8.encode_ofList_append, Utf8.encode_ofList_append, List.extract_eq_take_drop,
    List.append_assoc, ← length_encode_ofList, ← length_encode_ofList, Utf8.encode_ofList_append,
    List.length_append, List.drop_left, Nat.add_sub_cancel_left, List.take_left]

/-- The bytes of a text from `t` on, with the bytes of a source in the place of each token. -/
def restoredFrom (text source : Bytes) (t : Nat) : List LiteralSpan → Bytes
  | [] => text.drop t
  | span :: rest =>
      text.extract t span.tokenStart ++ source.extract span.start span.stop ++
        restoredFrom text source span.tokenStop rest

/-- The bytes of a text, with the bytes of a source in the place of each token. -/
def restored (text source : String) (spans : List LiteralSpan) : Bytes :=
  restoredFrom (Utf8.encode text) (Utf8.encode source) 0 spans

/-- The source is restored behind the last token, where `d` has been read since then. -/
theorem restoredFrom_spansFrom (k : Nat) (a a' d : List Char) (pieces : List Segment) :
    restoredFrom (Utf8.encode (String.ofList (a ++ d ++ protectedFrom k pieces)))
      (Utf8.encode (String.ofList (a' ++ d ++ sourceText pieces))) (byteLength a)
      (spansFrom k (byteLength a + byteLength d) (byteLength a' + byteLength d) pieces) =
    Utf8.encode (String.ofList (d ++ sourceText pieces)) := by
  induction pieces generalizing k a a' d with
  | nil =>
      rw [spansFrom, restoredFrom, protectedFrom, sourceText_nil, List.append_nil, List.append_nil,
        Utf8.encode_ofList_append, ← length_encode_ofList, List.drop_left]
  | cons piece rest ih =>
      cases piece with
      | plain c =>
          have h := ih k a a' (d ++ [c])
          simpa [spansFrom, protectedFrom, Segment.text, Nat.add_assoc] using h
      | literal body =>
          have hgap : StandsAt (a ++ d ++ protectedFrom k (.literal body :: rest)) (byteLength a)
              (byteLength a + byteLength d) d :=
            ⟨a, protectedFrom k (.literal body :: rest), rfl, rfl, Chars.byteLength_append a d⟩
          have hliteral : StandsAt (a' ++ d ++ sourceText (.literal body :: rest))
              (byteLength a' + byteLength d) (byteLength a' + byteLength d + byteLength body + 2)
              (Segment.text (.literal body)) :=
            ⟨a' ++ d, sourceText rest, by simp, Chars.byteLength_append a' d, by
              simp [byteLength_text_literal, Nat.add_assoc]⟩
          have hrest := ih (k + 1) (a ++ d ++ token k) (a' ++ d ++ Segment.text (.literal body)) []
          simp only [Chars.byteLength_append, byteLength_text_literal, Chars.byteLength_nil,
            List.append_assoc, List.nil_append, Nat.add_zero, ← Nat.add_assoc] at hrest
          rw [spansFrom, restoredFrom, hgap.extract_encode, hliteral.extract_encode, protectedFrom,
            sourceText_cons]
          simp only [List.append_assoc]
          rw [hrest]
          simp only [Utf8.encode_ofList_append]

/-! ### Checked walks -/

/-- A difference, unless it is below zero. -/
def checkedSub? (m n : Nat) : Option Nat :=
  if n ≤ m then some (m - n) else none

/-- The spans of the literals at some ranges of an expression, found with running lengths: the last
literal before them ends at `e`, its token at `t`, and the next token has the number `k`. -/
def runningSpans? (k t e : Nat) : List (Nat × Nat) → Option (List LiteralSpan)
  | [] => some []
  | (start, stop) :: rest =>
      (checkedSub? start e).bind fun gap =>
        let tokenStart := gap + t
        let tokenStop := tokenStart + byteLength (token k)
        (runningSpans? (k + 1) tokenStop stop rest).map (⟨tokenStart, tokenStop, start, stop⟩ :: ·)

/-- `originalOffsetFrom` with each subtraction checked. -/
def checkedOffsetFrom? (t e position : Nat) : List LiteralSpan → Option Nat
  | [] => (checkedSub? position t).map (e + ·)
  | span :: rest =>
      if position < span.tokenStart then (checkedSub? position t).map (e + ·)
      else if position < span.tokenStop then some span.start
      else checkedOffsetFrom? span.tokenStop span.stop position rest

/-- `originalOffset` with each subtraction checked. -/
def checkedOffset? (spans : List LiteralSpan) (position : Nat) : Option Nat :=
  checkedOffsetFrom? 0 0 position spans

theorem checkedSub?_add_left (m d : Nat) : checkedSub? (m + d) m = some d := by
  rw [checkedSub?, if_pos (Nat.le_add_right m d), Nat.add_sub_cancel_left]

theorem runningSpans?_map_range (k t e d : Nat) (pieces : List Segment) :
    runningSpans? k t e ((spansFrom k (t + d) (e + d) pieces).map LiteralSpan.range) =
      some (spansFrom k (t + d) (e + d) pieces) := by
  induction pieces generalizing k t e d with
  | nil => rfl
  | cons piece rest ih =>
      cases piece with
      | plain c =>
          rw [spansFrom, Nat.add_assoc, Nat.add_assoc]
          exact ih k t e (d + c.utf8Size)
      | literal body =>
          have hrest := ih (k + 1) (t + d + byteLength (token k)) (e + d + byteLength body + 2) 0
          simp only [Nat.add_zero] at hrest
          rw [spansFrom, List.map_cons, LiteralSpan.range, runningSpans?, checkedSub?_add_left,
            Option.bind_some, Nat.add_comm d t]
          dsimp only
          rw [hrest]
          rfl

theorem checkedOffsetFrom?_eq {t e position : Nat} {spans : List LiteralSpan}
    (h : t ≤ position) :
    checkedOffsetFrom? t e position spans = some (originalOffsetFrom t e position spans) := by
  have hsub : (checkedSub? position t).map (e + ·) = some (e + (position - t)) := by
    rw [checkedSub?, if_pos h]
    rfl
  induction spans generalizing t e with
  | nil => exact hsub
  | cons span rest ih =>
      rw [checkedOffsetFrom?, originalOffsetFrom]
      split_ifs with hstart hstop
      · exact hsub
      · rfl
      · have hle := Nat.le_of_not_lt hstop
        exact ih hle (by rw [checkedSub?, if_pos hle]; rfl)

/-! ### The places altogether -/

/-- `span.InPlace e i` says that a span of the expression `e` is that of its literal with the number
`i`: the token with this number stands at it in the protected text, the literal in the expression,
and the token leads to the text between the quotes. -/
structure LiteralSpan.InPlace (span : LiteralSpan) (e : String) (i : Nat) : Prop where
  token : StandsAt (protectedText (segments e.toList)) span.tokenStart span.tokenStop
    ("'StaticParameter" ++ i.repr ++ "'").toList
  literal : ∃ body, StandsAt e.toList span.start span.stop ('\'' :: body ++ ['\'']) ∧
    literalOfToken? 0 ("'StaticParameter" ++ i.repr ++ "'").toList
      (literals (segments e.toList)) = some body

theorem token_eq_toList (i : Nat) : token i = ("'StaticParameter" ++ i.repr ++ "'").toList := by
  simp [token_eq, Nat.repr]

theorem LiteralSpan.inPlace_of_getElem? {e : String} {i : Nat} {span : LiteralSpan}
    (h : (spans (segments e.toList))[i]? = some span) : span.InPlace e i := by
  obtain ⟨xs, body, ys, hpieces, rfl, htoken, htokenStop, hstart, hstop⟩ :=
    exists_of_getElem?_spansFrom h
  have htext : protectedText (segments e.toList) =
      protectedText xs ++ token (literals xs).length ++
        protectedFrom ((literals xs).length + 1) ys := by
    simp [hpieces, protectedText, protectedFrom_append, protectedFrom]
  have hsource : e.toList = sourceText xs ++ ('\'' :: body ++ ['\'']) ++ sourceText ys := by
    rw [← sourceText_segments e.toList, hpieces]
    simp [Segment.text]
  have hquotes := byteLength_text_literal body
  rw [Nat.zero_add] at htoken htokenStop hstart
  refine ⟨?_, body, ?_, ?_⟩
  · rw [← token_eq_toList]
    exact ⟨_, _, htext, htoken.symm, by rw [Chars.byteLength_append, htokenStop, htoken]; rfl⟩
  · refine ⟨_, _, hsource, hstart.symm, ?_⟩
    rw [Chars.byteLength_append, hstop, hstart, Nat.add_assoc, ← hquotes]
    rfl
  · have hbody := literalOfToken?_token 0 (literals xs).length (literals (segments e.toList))
    rw [Nat.zero_add, token_eq_toList] at hbody
    rw [hbody, hpieces]
    simp [literals]

/-- **Tokens in place.** The spans of an expression are in increasing order and disjoint in both
texts; each one is that of its literal and its token; and the expression is restored with them.
Offsets outside the tokens keep their order and lead to the same characters, the end to the end.
Both walks come to these spans and offsets without a subtraction that goes below zero. -/
theorem protectedText_in_place (e : String) :
    let pieces := segments e.toList
    let text := String.ofList (protectedText pieces)
    (spans pieces).length = (literals pieces).length ∧
    (spans pieces).Pairwise (fun a b => a.tokenStop ≤ b.tokenStart ∧ a.stop ≤ b.start) ∧
    (∀ (i : Nat) (span : LiteralSpan), (spans pieces)[i]? = some span → span.InPlace e i) ∧
    restored text e (spans pieces) = Utf8.encode e ∧
    StrictMonoOn (originalOffset (spans pieces)) {p | OutsideTokens (spans pieces) p} ∧
    originalOffset (spans pieces) text.utf8ByteSize = e.utf8ByteSize ∧
    (∀ before c after, text.toList = before ++ c :: after →
      (∀ span ∈ spans pieces,
        byteLength before < span.tokenStart ∨ span.tokenStop ≤ byteLength before) →
      ∃ before' after', e.toList = before' ++ c :: after' ∧
        byteLength before' = originalOffset (spans pieces) (byteLength before)) ∧
    runningSpans? 0 0 0 ((spans pieces).map LiteralSpan.range) = some (spans pieces) ∧
    ∀ p, checkedOffset? (spans pieces) p = some (originalOffset (spans pieces) p) := by
  intro pieces text
  have haligned : Aligned 0 0 (spans pieces) := aligned_spansFrom 0 0 0 0 pieces
  have hsource : sourceText pieces = e.toList := sourceText_segments e.toList
  refine ⟨length_spansFrom .., haligned.pairwise, fun i span => LiteralSpan.inPlace_of_getElem?,
    ?_, ?_, ?_, ?_, runningSpans?_map_range 0 0 0 0 pieces,
    fun p => checkedOffsetFrom?_eq (Nat.zero_le p)⟩
  · have h := restoredFrom_spansFrom 0 [] [] [] pieces
    simpa [restored, text, spans, protectedText, hsource] using h
  · exact fun p hp q hq hpq => haligned.originalOffsetFrom_lt (Nat.zero_le p) hpq hp hq
  · have h := originalOffset_spans pieces []
    rw [List.append_nil, hsource] at h
    rw [← Chars.byteLength_eq_utf8ByteSize, h, Chars.byteLength_eq_utf8ByteSize,
      String.ofList_toList]
  · intro before c after htext houtside
    rw [String.toList_ofList] at htext
    rcases exists_of_protectedFrom_eq (t := 0) (e := 0) htext with
      ⟨xs, ys, hpieces, hbefore⟩ | ⟨span, hspan, hstart, hstop⟩
    · refine ⟨sourceText xs, sourceText ys, ?_, ?_⟩
      · rw [← hsource, hpieces]
        simp [Segment.text]
      · rw [← hbefore, hpieces]
        exact (originalOffset_spans xs _).symm
    · have := houtside span hspan
      omega

example : spans (segments "F('x', 'ü;')".toList) = [⟨2, 20, 2, 5⟩, ⟨22, 40, 7, 12⟩] := by
  decide +kernel

end PageMigration.Expression
