import PageMigration.Proofs.Expression.ChainCuts

/-!
# Pieces of a chain

The expressions of a chain are what its parts hold without the blanks at their ends.  So nothing of
a chain is lost or read twice: each character belongs to one expression, or is blank, or is a
semicolon outside literals, and between two expressions there is such a semicolon.  A literal that
is never closed reaches to the end of the chain.

No other pieces of a chain have these properties.  Joined with semicolons, the expressions are a
chain that has the same expressions.

## Main definitions

* `IsSeparator` : the offsets of the semicolons outside literals.
* `Piece.IsIn` : a trimmed piece of a text without separators.
* `Divides` : the pieces of a text in order, which leave out blanks and separators only.

## Main results

* `exists_divides` : every text can be divided.
* `Divides.map_expression_eq` : what divides a text are its expressions.
* `splitChain_join_expressionsOf` : the expressions of joined expressions.
* `splitChain_divides` : all of it for chains.
-/

namespace PageMigration.Expression

open Chars (blank trim isBlank byteLength)

variable {a b s : List Char}

/-! ### Separators -/

/-- A semicolon that stands outside literals at an offset, in bytes: the text in front of it closes
its literals. -/
def IsSeparator (s : List Char) (offset : Nat) : Prop :=
  ∃ before after, s = before ++ ';' :: after ∧ ClosesLiterals before ∧ byteLength before = offset

theorem IsSeparator.lt {i : Nat} (h : IsSeparator s i) : i < byteLength s := by
  obtain ⟨before, after, hs, -, rfl⟩ := h
  exact byteLength_lt_of_eq_append_cons hs

/-- A text is one part iff it has no separators. -/
theorem chainParts_eq_singleton_iff_forall :
    chainParts .outside s = [s] ↔ ∀ i, ¬ IsSeparator s i := by
  rw [chainParts_eq_singleton_iff]
  refine ⟨?_, fun h before after hs hafter =>
    h _ ⟨before, after, hs, closesLiterals_iff.mpr hafter, rfl⟩⟩
  rintro h i ⟨before, after, hs, hclosed, -⟩
  exact h before after hs hclosed.after_outside

/-- What closes its literals can be put in front of another such text. -/
theorem ClosesLiterals.append_semicolon_iff (ha : ClosesLiterals a) :
    ClosesLiterals (a ++ ';' :: b) ↔ ClosesLiterals b := by
  rw [closesLiterals_iff, closesLiterals_iff, ChainState.after_append, ha.after_outside]
  rfl

/-- The separators of two texts with a separator between them. -/
theorem isSeparator_append_semicolon_iff (ha : ClosesLiterals a) {i : Nat} :
    IsSeparator (a ++ ';' :: b) i ↔ IsSeparator a i ∨ i = byteLength a ∨
      ∃ j, i = byteLength (a ++ [';']) + j ∧ IsSeparator b j := by
  constructor
  · rintro ⟨before, after, hs, hclosed, rfl⟩
    rcases append_semicolon_eq_append_cons hs with ⟨t, ht⟩ | ⟨rfl, -⟩ | ⟨t, rfl, hb⟩
    · exact Or.inl ⟨before, t, ht, hclosed, rfl⟩
    · exact Or.inr (Or.inl rfl)
    · exact Or.inr (Or.inr ⟨byteLength t, by simp [Nat.add_assoc],
        t, after, hb, ha.append_semicolon_iff.mp hclosed, rfl⟩)
  · rintro (⟨before, after, rfl, hclosed, rfl⟩ | rfl | ⟨j, rfl, before, after, rfl, hclosed, rfl⟩)
    · exact ⟨before, after ++ ';' :: b, by simp, hclosed, rfl⟩
    · exact ⟨a, b, rfl, ha, rfl⟩
    · exact ⟨a ++ ';' :: before, after, by simp, ha.append_semicolon_iff.mpr hclosed,
        by simp [Nat.add_assoc]⟩

/-! ### Pieces -/

/-- A piece of a text and the offsets, in bytes, between which it stands. -/
structure Piece where
  start : Nat
  stop : Nat
  text : List Char
  deriving DecidableEq, Repr

namespace Piece

/-- The offset is that of a character of the piece. -/
def Covers (p : Piece) (offset : Nat) : Prop :=
  p.start ≤ offset ∧ offset < p.stop

/-- A piece of a text behind so many bytes more. -/
def behind (bytes : Nat) (p : Piece) : Piece :=
  { p with start := bytes + p.start, stop := bytes + p.stop }

/-- A piece as an expression. -/
def expression (p : Piece) : String :=
  String.ofList p.text

/-- A piece that stands in a text, is trimmed and not blank, and has no separator of the text. -/
structure IsIn (p : Piece) (s : List Char) : Prop where
  stands : StandsAt s p.start p.stop p.text
  nonblank : ¬ blank p.text
  trimmed : trim p.text = p.text
  whole : ∀ i, IsSeparator s i → ¬ p.Covers i

/-- A separator of a text stands between two pieces. -/
def Apart (s : List Char) (p q : Piece) : Prop :=
  ∃ i, IsSeparator s i ∧ p.stop ≤ i ∧ i < q.start

theorem covers_behind {p : Piece} {bytes i : Nat} :
    (p.behind bytes).Covers (bytes + i) ↔ p.Covers i := by
  simp [Covers, behind]

/-- Pieces that begin behind so many bytes are pieces of what stands there. -/
theorem exists_eq_map_behind {bytes : Nat} {ps : List Piece}
    (h : ∀ p ∈ ps, bytes ≤ p.start ∧ bytes ≤ p.stop) :
    ∃ qs : List Piece, ps = qs.map (behind bytes) := by
  induction ps with
  | nil => exact ⟨[], rfl⟩
  | cons p ps ih =>
      rw [List.forall_mem_cons] at h
      obtain ⟨qs, rfl⟩ := ih h.2
      refine ⟨⟨p.start - bytes, p.stop - bytes, p.text⟩ :: qs, ?_⟩
      simp only [List.map_cons, behind, Nat.add_sub_cancel' h.1.1, Nat.add_sub_cancel' h.1.2]

theorem IsIn.start_lt_stop {p : Piece} (h : p.IsIn s) : p.start < p.stop := by
  have hstop := h.stands.stop_eq
  cases htext : p.text with
  | nil => exact absurd (by rw [htext]; rfl) h.nonblank
  | cons c t =>
      have hsize := c.utf8Size_pos
      rw [htext, Chars.byteLength_cons] at hstop
      omega

end Piece

/-- `Divides s pieces` says that the pieces are in order what stands in a text between separators,
without the blanks at both ends. -/
structure Divides (s : List Char) (pieces : List Piece) : Prop where
  isIn : ∀ p ∈ pieces, p.IsIn s
  apart : pieces.Pairwise (Piece.Apart s)
  /-- A character outside the pieces is blank, or it is a semicolon outside literals. -/
  outside : ∀ before c after, s = before ++ c :: after →
    (∀ p ∈ pieces, ¬ p.Covers (byteLength before)) →
    isBlank c ∨ (c = ';' ∧ ClosesLiterals before)

/-! ### Texts without separators -/

section Single

variable {p : Piece} {pieces : List Piece}

theorem blank_of_forall (h : ∀ before c after, s = before ++ c :: after → isBlank c) : blank s :=
  List.all_eq_true.mpr fun c hc =>
    have ⟨before, after, hs⟩ := List.append_of_mem hc
    h before c after hs

theorem divides_nil_of_blank (h : blank s) : Divides s [] where
  isIn := by simp
  apart := .nil
  outside before c after hs _ := Or.inl (List.all_eq_true.mp h c (by simp [hs]))

/-- A text without separators is divided by its trimmed text. -/
theorem divides_trim (hsep : ∀ i, ¬ IsSeparator s i) (hne : ¬ blank s) :
    Divides s [⟨byteLength (s.takeWhile isBlank),
      byteLength (s.takeWhile isBlank ++ trim s), trim s⟩] := by
  obtain ⟨tail, htail, hs⟩ := Chars.exists_eq_append_trim s
  refine ⟨?isIn, List.pairwise_singleton .., ?outside⟩
  case isIn =>
    refine List.forall_mem_singleton.mpr ⟨⟨_, tail, hs, rfl, rfl⟩, ?_, Chars.trim_trim s,
      fun i hi => absurd hi (hsep i)⟩
    rwa [Chars.blank_trim]
  case outside =>
    intro before c after hc huncovered
    rw [hs] at hc
    refine Or.inl ?_
    rcases Chars.append_eq_append_cons hc with ⟨t, hfront, -⟩ | ⟨t, -, rfl⟩
    · rcases Chars.append_eq_append_cons hfront with ⟨t, hlead, -⟩ | ⟨t, rfl, -⟩
      · exact List.all_eq_true.mp (Chars.blank_takeWhile s) c (by simp [hlead])
      · refine absurd ⟨?_, byteLength_lt_of_eq_append_cons hfront⟩
          (huncovered _ List.mem_cons_self)
        rw [Chars.byteLength_append _ t]
        exact Nat.le_add_right ..
    · exact List.all_eq_true.mp htail c (by simp)

theorem exists_divides_of_single (hsep : ∀ i, ¬ IsSeparator s i) : ∃ pieces, Divides s pieces := by
  by_cases hblank : blank s
  · exact ⟨[], divides_nil_of_blank hblank⟩
  · exact ⟨_, divides_trim hsep hblank⟩

/-- Outside the pieces of a text without separators there are blanks only. -/
theorem Divides.isBlank_of_single (h : Divides s pieces) (hsep : ∀ i, ¬ IsSeparator s i)
    {before after : List Char} {c : Char} (hs : s = before ++ c :: after)
    (huncovered : ∀ p ∈ pieces, ¬ p.Covers (byteLength before)) : isBlank c := by
  refine (h.outside before c after hs huncovered).resolve_right ?_
  rintro ⟨rfl, hclosed⟩
  exact hsep _ ⟨before, after, hs, hclosed, rfl⟩

/-- The only piece of a text without separators is its trimmed text. -/
theorem Divides.trim_eq_of_single (h : Divides s [p]) (hsep : ∀ i, ¬ IsSeparator s i) :
    trim s = p.text := by
  have hp := h.isIn p List.mem_cons_self
  obtain ⟨before, after, hs, hstart, hstop⟩ := hp.stands
  have hbefore : blank before := blank_of_forall fun front c back hc => by
    refine h.isBlank_of_single hsep
      (show s = front ++ c :: (back ++ p.text ++ after) by simp [hs, hc])
      (List.forall_mem_singleton.mpr fun hcovers => ?_)
    have hlt := byteLength_lt_of_eq_append_cons hc
    exact absurd hcovers.1 (by omega)
  have hafter : blank after := blank_of_forall fun front c back hc => by
    refine h.isBlank_of_single hsep
      (show s = before ++ p.text ++ front ++ c :: back by simp [hs, hc])
      (List.forall_mem_singleton.mpr fun hcovers => ?_)
    rw [Chars.byteLength_append] at hcovers
    exact absurd hcovers.2 (by omega)
  rw [hs, Chars.trim_append_blank hafter, Chars.trim_blank_append hbefore, hp.trimmed]

/-- A text without separators has one piece, or none if it is blank. -/
theorem Divides.map_expression_of_single (h : Divides s pieces) (hsep : ∀ i, ¬ IsSeparator s i) :
    pieces.map Piece.expression = expressionsOf [s] := by
  match pieces with
  | [] =>
      have hs : blank s := blank_of_forall fun _ _ _ hs => h.isBlank_of_single hsep hs (by simp)
      rw [expressionsOf_singleton, if_pos hs, List.map_nil]
  | [p] =>
      have htrim := h.trim_eq_of_single hsep
      have hne : ¬ blank s := by
        rw [← Chars.blank_trim, htrim]
        exact (h.isIn p List.mem_cons_self).nonblank
      rw [expressionsOf_singleton, if_neg hne, htrim]
      rfl
  | p :: q :: _ =>
      obtain ⟨i, hi, -⟩ := List.rel_of_pairwise_cons h.apart List.mem_cons_self
      exact absurd hi (hsep i)

end Single

/-! ### Texts with a separator between them -/

section Semicolon

variable {p q : Piece} {ps qs : List Piece}

theorem byteLength_append_semicolon (a : List Char) :
    byteLength (a ++ [';']) = byteLength a + 1 :=
  Chars.byteLength_append ..

/-- Up to the end of the first text its separators are those of the whole. -/
theorem isSeparator_append_semicolon_of_lt (ha : ClosesLiterals a) {i : Nat}
    (hi : i < byteLength a) : IsSeparator (a ++ ';' :: b) i ↔ IsSeparator a i := by
  have hlength := byteLength_append_semicolon a
  rw [isSeparator_append_semicolon_iff ha]
  refine ⟨fun h => ?_, Or.inl⟩
  rcases h with h | rfl | ⟨j, rfl, -⟩
  · exact h
  · omega
  · omega

/-- Behind the separator the ones of the second text are those of the whole. -/
theorem isSeparator_append_semicolon_add (ha : ClosesLiterals a) {i : Nat} :
    IsSeparator (a ++ ';' :: b) (byteLength (a ++ [';']) + i) ↔ IsSeparator b i := by
  have hlength := byteLength_append_semicolon a
  rw [isSeparator_append_semicolon_iff ha]
  refine ⟨fun h => ?_, fun h => Or.inr (Or.inr ⟨i, rfl, h⟩)⟩
  rcases h with h | h | ⟨j, hj, h⟩
  · have := h.lt
    omega
  · omega
  · rwa [Nat.add_left_cancel hj]

namespace Piece

/-- What stops within the first text is a piece of it iff it is one of the whole. -/
theorem isIn_append_semicolon_iff (ha : ClosesLiterals a) (hp : p.stop ≤ byteLength a) :
    p.IsIn (a ++ ';' :: b) ↔ p.IsIn a := by
  have hwhole {i : Nat} (hi : p.Covers i) : IsSeparator (a ++ ';' :: b) i ↔ IsSeparator a i :=
    isSeparator_append_semicolon_of_lt ha (Nat.lt_of_lt_of_le hi.2 hp)
  constructor
  · intro h
    exact ⟨h.stands.of_append_right hp, h.nonblank, h.trimmed, fun i hi hcovers =>
      h.whole i ((hwhole hcovers).mpr hi) hcovers⟩
  · intro h
    exact ⟨h.stands.append_right _, h.nonblank, h.trimmed, fun i hi hcovers =>
      h.whole i ((hwhole hcovers).mp hi) hcovers⟩

theorem isIn_behind_iff (ha : ClosesLiterals a) :
    (q.behind (byteLength (a ++ [';']))).IsIn (a ++ ';' :: b) ↔ q.IsIn b := by
  constructor
  · intro h
    refine ⟨?_, h.nonblank, h.trimmed, fun i hi hcovers => ?_⟩
    · have hstands := h.stands
      rw [List.append_cons a ';' b] at hstands
      exact hstands.of_append_left
    · exact h.whole _ ((isSeparator_append_semicolon_add ha).mpr hi) (covers_behind.mpr hcovers)
  · intro h
    refine ⟨?_, h.nonblank, h.trimmed, fun i hi hcovers => ?_⟩
    · rw [List.append_cons a ';' b]
      exact h.stands.append_left _
    · obtain ⟨j, rfl⟩ := Nat.exists_eq_add_of_le (Nat.le_trans (Nat.le_add_right ..) hcovers.1)
      exact h.whole j ((isSeparator_append_semicolon_add ha).mp hi) (covers_behind.mp hcovers)

theorem apart_append_semicolon_iff (ha : ClosesLiterals a) (hq : q.start ≤ byteLength a) :
    Apart (a ++ ';' :: b) p q ↔ Apart a p q := by
  refine exists_congr fun i => ⟨fun h => ?_, fun h => ?_⟩
  · exact ⟨(isSeparator_append_semicolon_of_lt ha (by omega)).mp h.1, h.2⟩
  · exact ⟨(isSeparator_append_semicolon_of_lt ha (by omega)).mpr h.1, h.2⟩

theorem apart_behind_iff (ha : ClosesLiterals a) :
    Apart (a ++ ';' :: b) (p.behind (byteLength (a ++ [';'])))
      (q.behind (byteLength (a ++ [';']))) ↔ Apart b p q := by
  constructor
  · rintro ⟨i, hi, hp, hq⟩
    obtain ⟨j, rfl⟩ := Nat.exists_eq_add_of_le (Nat.le_trans (Nat.le_add_right ..) hp)
    exact ⟨j, (isSeparator_append_semicolon_add ha).mp hi, Nat.le_of_add_le_add_left hp,
      Nat.lt_of_add_lt_add_left hq⟩
  · rintro ⟨j, hj, hp, hq⟩
    exact ⟨_, (isSeparator_append_semicolon_add ha).mpr hj, Nat.add_le_add_left hp _,
      Nat.add_lt_add_left hq _⟩

end Piece

namespace Divides

/-- The pieces of two texts divide them with a separator in between. -/
theorem append_semicolon (ha : ClosesLiterals a) (h : Divides a ps) (k : Divides b qs) :
    Divides (a ++ ';' :: b) (ps ++ qs.map (Piece.behind (byteLength (a ++ [';'])))) := by
  have hlength := byteLength_append_semicolon a
  have hstop (p : Piece) (hp : p ∈ ps) : p.stop ≤ byteLength a := (h.isIn p hp).stands.stop_le
  constructor
  case isIn =>
    intro p hp
    rcases List.mem_append.mp hp with hp | hp
    · exact (Piece.isIn_append_semicolon_iff ha (hstop p hp)).mpr (h.isIn p hp)
    · obtain ⟨q, hq, rfl⟩ := List.mem_map.mp hp
      exact (Piece.isIn_behind_iff ha).mpr (k.isIn q hq)
  case apart =>
    rw [List.pairwise_append, List.pairwise_map]
    refine ⟨h.apart.imp_of_mem fun _ hq hpq => ?_, k.apart.imp (Piece.apart_behind_iff ha).mpr, ?_⟩
    · have hle := Nat.le_trans (h.isIn _ hq).start_lt_stop.le (hstop _ hq)
      exact (Piece.apart_append_semicolon_iff ha hle).mpr hpq
    · intro p hp q' hq'
      obtain ⟨q, -, rfl⟩ := List.mem_map.mp hq'
      refine ⟨byteLength a, ⟨a, b, rfl, ha, rfl⟩, hstop p hp, ?_⟩
      dsimp only [Piece.behind]
      omega
  case outside =>
    intro before c after hs huncovered
    rcases append_semicolon_eq_append_cons hs with ⟨t, ht⟩ | ⟨rfl, hc⟩ | ⟨t, rfl, hb⟩
    · exact h.outside before c t ht fun p hp => huncovered p (List.mem_append_left _ hp)
    · exact Or.inr ⟨hc, ha⟩
    · rw [ha.append_semicolon_iff]
      refine k.outside t c after hb fun q hq hcovers => ?_
      refine huncovered _ (List.mem_append_right _ (List.mem_map_of_mem hq)) ?_
      rw [List.append_cons a ';' t, Chars.byteLength_append _ t]
      exact Piece.covers_behind.mpr hcovers

/-- The pieces of a text end before a separator, and then they begin behind it. -/
theorem exists_eq_append (h : Divides s ps) {i : Nat} (hi : IsSeparator s i) :
    ∃ xs ys, ps = xs ++ ys ∧ (∀ p ∈ xs, p.stop ≤ i) ∧ ∀ p ∈ ys, i < p.start := by
  obtain ⟨hin, hapart, -⟩ := h
  induction ps with
  | nil => exact ⟨[], [], rfl, by simp, by simp⟩
  | cons p ps ih =>
      rw [List.forall_mem_cons] at hin
      rw [List.pairwise_cons] at hapart
      by_cases hp : p.stop ≤ i
      · obtain ⟨xs, ys, rfl, hxs, hys⟩ := ih hin.2 hapart.2
        exact ⟨p :: xs, ys, rfl, List.forall_mem_cons.mpr ⟨hp, hxs⟩, hys⟩
      · -- From the first piece behind the separator on all pieces are behind it.
        have hstart : i < p.start := by
          by_contra hle
          exact hin.1.whole i hi ⟨Nat.le_of_not_lt hle, Nat.lt_of_not_le hp⟩
        refine ⟨[], p :: ps, rfl, by simp, List.forall_mem_cons.mpr ⟨hstart, fun q hq => ?_⟩⟩
        obtain ⟨j, -, hpj, hjq⟩ := hapart.1 q hq
        omega

/-- What divides two texts with a separator in between divides each of them. -/
theorem of_append_semicolon (ha : ClosesLiterals a) (h : Divides (a ++ ';' :: b) ps) :
    ∃ xs ys, ps = xs ++ ys.map (Piece.behind (byteLength (a ++ [';']))) ∧ Divides a xs ∧
      Divides b ys := by
  have hlength := byteLength_append_semicolon a
  -- The semicolon in between is a separator, so each piece lies on one side of it.
  obtain ⟨xs, zs, rfl, hxs, hzs⟩ := h.exists_eq_append ⟨a, b, rfl, ha, rfl⟩
  obtain ⟨hin, hapart, houtside⟩ := h
  obtain ⟨ys, rfl⟩ := Piece.exists_eq_map_behind fun p hp => show
      byteLength (a ++ [';']) ≤ p.start ∧ byteLength (a ++ [';']) ≤ p.stop by
    have hstart := hzs p hp
    have hlt := (hin p (List.mem_append_right _ hp)).start_lt_stop
    exact ⟨by omega, by omega⟩
  rw [List.forall_mem_append, List.forall_mem_map] at hin
  rw [List.pairwise_append, List.pairwise_map] at hapart
  refine ⟨xs, ys, rfl, ⟨?_, ?_, ?_⟩, ⟨?_, hapart.2.1.imp (Piece.apart_behind_iff ha).mp, ?_⟩⟩
  · exact fun p hp => (Piece.isIn_append_semicolon_iff ha (hxs p hp)).mp (hin.1 p hp)
  · refine hapart.1.imp_of_mem fun _ hq hpq => ?_
    have hle := Nat.le_trans (hin.1 _ hq).start_lt_stop.le (hxs _ hq)
    exact (Piece.apart_append_semicolon_iff ha hle).mp hpq
  · intro before c after hs huncovered
    refine houtside before c (after ++ ';' :: b) (by simp [hs]) fun p hp hcovers => ?_
    rcases List.mem_append.mp hp with hp | hp
    · exact huncovered p hp hcovers
    · have hlt := byteLength_lt_of_eq_append_cons hs
      have hstart := hzs p hp
      exact absurd hcovers.1 (by omega)
  · exact fun q hq => (Piece.isIn_behind_iff ha).mp (hin.2 q hq)
  · intro before c after hs huncovered
    rw [← ha.append_semicolon_iff]
    refine houtside (a ++ ';' :: before) c after (by simp [hs]) fun p hp hcovers => ?_
    rw [List.append_cons a ';' before, Chars.byteLength_append _ before] at hcovers
    rcases List.mem_append.mp hp with hp | hp
    · have hstop := hxs p hp
      exact absurd hcovers.2 (by omega)
    · obtain ⟨q, hq, rfl⟩ := List.mem_map.mp hp
      exact huncovered q hq (Piece.covers_behind.mp hcovers)

end Divides

end Semicolon

/-! ### Texts in pieces -/

/-- A text can be divided. -/
theorem exists_divides (s : List Char) : ∃ pieces, Divides s pieces := by
  induction s using chainParts_induction with
  | single s hs => exact exists_divides_of_single (chainParts_eq_singleton_iff_forall.mp hs)
  | semicolon a b ha hparts ih =>
      obtain ⟨xs, hxs⟩ :=
        exists_divides_of_single (chainParts_eq_singleton_iff_forall.mp hparts)
      obtain ⟨ys, hys⟩ := ih
      exact ⟨_, hxs.append_semicolon (closesLiterals_iff.mpr ha) hys⟩

/-- The expressions of a text are the only pieces that divide it. -/
theorem Divides.map_expression_eq {pieces : List Piece} (h : Divides s pieces) :
    pieces.map Piece.expression = expressionsOf (chainParts .outside s) := by
  induction s using chainParts_induction generalizing pieces with
  | single s hs =>
      rw [hs, h.map_expression_of_single (chainParts_eq_singleton_iff_forall.mp hs)]
  | semicolon a b ha hparts ih =>
      obtain ⟨xs, ys, rfl, hxs, hys⟩ := h.of_append_semicolon (closesLiterals_iff.mpr ha)
      have hbehind : Piece.expression ∘ Piece.behind (byteLength (a ++ [';'])) =
          Piece.expression := rfl
      rw [expressionsOf_append_semicolon b ha, hparts, ← ih hys, List.map_append, List.map_map,
        hbehind, hxs.map_expression_of_single (chainParts_eq_singleton_iff_forall.mp hparts)]

/-- A trimmed part is its only expression. -/
theorem splitChain_trim_of_single (hs : chainParts .outside s = [s]) (hne : ¬ blank s) :
    splitChain (String.ofList (trim s)) = [String.ofList (trim s)] := by
  have htrim : ¬ blank (trim s) := by rwa [Chars.blank_trim]
  rw [splitChain_eq, String.toList_ofList, chainParts_trim hs, expressionsOf_singleton,
    if_neg htrim, Chars.trim_trim]

/-- Expressions joined with semicolons are found again. -/
theorem splitChain_join_expressionsOf (s : List Char) :
    splitChain (Text.join ";" (expressionsOf (chainParts .outside s))) =
      expressionsOf (chainParts .outside s) := by
  induction s using chainParts_induction with
  | single s hs =>
      rw [hs, expressionsOf_singleton]
      split
      · rfl
      · next hne => rw [Text.join, String.intercalate_singleton, splitChain_trim_of_single hs hne]
  | semicolon a b ha hparts ih =>
      rw [expressionsOf_append_semicolon b ha, hparts, expressionsOf_singleton]
      split
      · exact ih
      · next hne =>
          have hfirst := splitChain_trim_of_single hparts hne
          by_cases hrest : expressionsOf (chainParts .outside b) = []
          · rw [hrest, List.append_nil, Text.join, String.intercalate_singleton, hfirst]
          · -- The first expression closes its literals, so the semicolon behind it separates.
            have hclosed : ClosesLiterals (String.ofList (trim a)).toList := by
              rw [String.toList_ofList]
              exact (closesLiterals_iff.mpr ha).trim
            rw [List.singleton_append, Text.join, String.intercalate_cons_of_ne_nil hrest,
              splitChain_append_semicolon hclosed, hfirst, ← Text.join, ih]
            rfl

/-! ### Chains -/

/-- **A chain in pieces.** The expressions of a chain are its pieces between separators, in their
places and in order, and outside them there are blanks and separators only; nothing else divides
the chain so.  Joined with semicolons they are found again.  The walk that finds them cuts the chain
at ends of characters. -/
theorem splitChain_divides (chain : String) :
    (∃ pieces, Divides chain.toList pieces ∧ pieces.map Piece.expression = splitChain chain) ∧
    (∀ pieces, Divides chain.toList pieces → pieces.map Piece.expression = splitChain chain) ∧
    splitChain (Text.join ";" (splitChain chain)) = splitChain chain ∧
    List.Forall₂ (fun range part => StandsAt chain.toList range.1 range.2 part)
      (partRanges chain.toList) (chainParts .outside chain.toList) := by
  obtain ⟨pieces, hpieces⟩ := exists_divides chain.toList
  exact ⟨⟨pieces, hpieces, hpieces.map_expression_eq⟩, fun _ h => h.map_expression_eq,
    splitChain_join_expressionsOf chain.toList, standsAt_partRanges chain.toList⟩

example : splitChain " A(';') ;; B('; \\" = ["A(';')", "B('; \\"] := by decide

end PageMigration.Expression
