import PageMigration.Proofs.Expression.LiteralText

/-!
# The parts of a chain

A text is scanned by scanning its beginning and then the rest in the state that the beginning
leaves, and the part that is open between the two is put together from both.  So a chain splits
at every semicolon that stands outside literals, whatever is on its two sides, and blanks around a
chain do not matter.

A chain may be cut before one of its expressions.  The text that remains has exactly the
expressions before that one.

## Main definitions

* `IsPart` : texts that are one part and close their literals.
* `expressionsOf` : the expressions that parts hold.
* `chainBefore` : the text of a chain before an expression.

## Main results

* `chainParts_append` : the parts of a text from those of its beginning and of the rest.
* `chainParts_induction` : induction from the last part of a text to the first.
* `splitChain_append_semicolon` : the expressions of two chains with a semicolon between them.
* `splitChain_trim` : blanks around a chain do not matter.
* `splitChain_chainBefore` : the expressions before an expression.
* `exists_eq_chainBefore_append` : what is cut off begins with the expression.
-/

namespace PageMigration.Expression

open Chars (blank trim isBlank)

/-! ### Parts of a text -/

theorem chainParts_ne_nil (state : ChainState) (s : List Char) : chainParts state s ≠ [] := by
  cases s with
  | nil => simp [chainParts]
  | cons c s =>
      rw [chainParts]
      split
      · simp
      · split <;> simp

theorem exists_chainParts_eq_cons (state : ChainState) (s : List Char) :
    ∃ part rest, chainParts state s = part :: rest :=
  List.exists_cons_of_ne_nil (chainParts_ne_nil state s)

theorem exists_chainParts_eq_concat (state : ChainState) (s : List Char) :
    ∃ rest part, chainParts state s = rest ++ [part] :=
  ⟨_, _, (List.dropLast_concat_getLast (chainParts_ne_nil state s)).symm⟩

/-- A separator ends a part. -/
theorem chainParts_semicolon (s : List Char) :
    chainParts .outside (';' :: s) = [] :: chainParts .outside s := by
  simp [chainParts]

/-- Every other character belongs to the part that it begins. -/
theorem chainParts_cons {state : ChainState} {c : Char} {s part : List Char}
    {rest : List (List Char)} (hc : ¬ (state = .outside ∧ c = ';'))
    (h : chainParts (state.step c) s = part :: rest) :
    chainParts state (c :: s) = (c :: part) :: rest := by
  simp [chainParts, hc, h]

/-- **Scanning in two steps.** The last part of the beginning and the first part of the rest are
one part of the text. -/
theorem chainParts_append {state : ChainState} {a b x y : List Char} {xs ys : List (List Char)}
    (ha : chainParts state a = xs ++ [x]) (hb : chainParts (state.after a) b = y :: ys) :
    chainParts state (a ++ b) = xs ++ (x ++ y) :: ys := by
  induction a generalizing state xs x with
  | nil =>
      obtain ⟨rfl, rfl⟩ : xs = [] ∧ x = [] := by
        cases xs <;> simp_all [chainParts]
      exact hb
  | cons c a ih =>
      by_cases hc : state = .outside ∧ c = ';'
      · obtain ⟨rfl, rfl⟩ := hc
        rw [chainParts_semicolon] at ha
        cases xs with
        | nil => exact absurd (List.cons.inj ha).2 (chainParts_ne_nil _ _)
        | cons z xs =>
            rw [List.cons_append, List.cons.injEq] at ha
            rw [← ha.1, List.cons_append, chainParts_semicolon, ih ha.2 hb]
            rfl
      · obtain ⟨part, rest, hrest⟩ := exists_chainParts_eq_cons (state.step c) a
        rw [chainParts_cons hc hrest] at ha
        cases xs with
        | nil =>
            obtain ⟨rfl, rfl⟩ := List.cons.inj ha
            exact chainParts_cons hc (ih (show _ = [] ++ [part] from hrest) hb)
        | cons z xs =>
            obtain ⟨rfl, rfl⟩ := List.cons.inj ha
            exact chainParts_cons hc (ih (show _ = part :: xs ++ [x] from hrest) hb)

/-- Two texts with a separator between them have the parts of both. -/
theorem chainParts_append_semicolon {state : ChainState} {a : List Char} (b : List Char)
    (ha : state.after a = .outside) :
    chainParts state (a ++ ';' :: b) = chainParts state a ++ chainParts .outside b := by
  obtain ⟨xs, x, hparts⟩ := exists_chainParts_eq_concat state a
  rw [chainParts_append hparts (by rw [ha]; exact chainParts_semicolon b), hparts]
  simp

/-- A text without a separator outside literals is one part; otherwise its first part ends at the
first separator, where the scan is outside. -/
theorem chainParts_eq (state : ChainState) (s : List Char) :
    chainParts state s = [s] ∨ ∃ a b, s = a ++ ';' :: b ∧ state.after a = .outside ∧
      chainParts state a = [a] := by
  induction s generalizing state with
  | nil => exact Or.inl rfl
  | cons c s ih =>
      by_cases hc : state = .outside ∧ c = ';'
      · obtain ⟨rfl, rfl⟩ := hc
        exact Or.inr ⟨[], s, rfl, rfl, rfl⟩
      · rcases ih (state.step c) with h | ⟨a, b, rfl, ha, hparts⟩
        · exact Or.inl (chainParts_cons hc h)
        · exact Or.inr ⟨c :: a, b, rfl, ha, chainParts_cons hc hparts⟩

/-- **Induction on the parts of a text.** What holds of texts without separators outside literals,
and of such a text with a separator and a text of which it holds, holds of all texts. -/
theorem chainParts_induction {motive : List Char → Prop}
    (single : ∀ s, chainParts .outside s = [s] → motive s)
    (semicolon : ∀ a b, ChainState.outside.after a = .outside → chainParts .outside a = [a] →
      motive b → motive (a ++ ';' :: b)) (s : List Char) : motive s := by
  rcases chainParts_eq .outside s with hs | ⟨a, b, rfl, ha, hparts⟩
  · exact single s hs
  · exact semicolon a b ha hparts (chainParts_induction single semicolon b)
termination_by s.length

/-- A text is one part iff no separator in it stands outside literals. -/
theorem chainParts_eq_singleton_iff {state : ChainState} {s : List Char} :
    chainParts state s = [s] ↔ ∀ a b, s = a ++ ';' :: b → state.after a ≠ .outside := by
  constructor
  · rintro h a b rfl ha
    rw [chainParts_append_semicolon b ha] at h
    have hlength := congrArg List.length h
    have hleft := List.length_pos_iff.mpr (chainParts_ne_nil state a)
    have hright := List.length_pos_iff.mpr (chainParts_ne_nil .outside b)
    simp only [List.length_append, List.length_singleton] at hlength
    omega
  · intro h
    rcases chainParts_eq state s with hs | ⟨a, b, hs, ha, -⟩
    · exact hs
    · exact absurd ha (h a b hs)

/-- A text without separators is one part. -/
theorem chainParts_of_notMem (state : ChainState) {s : List Char} (h : ';' ∉ s) :
    chainParts state s = [s] := by
  rcases chainParts_eq state s with hs | ⟨a, b, rfl, -, -⟩
  · exact hs
  · exact absurd (by simp) h

/-- A blank text is one part, and leaves the scan outside where it was outside. -/
theorem chainParts_of_blank (state : ChainState) {s : List Char} (h : blank s) :
    chainParts state s = [s] :=
  chainParts_of_notMem state (Chars.notMem_of_blank h (by decide))

/-- The text of a literal and its closing quote are one part. -/
theorem chainParts_literal {p : Char → Prop} {body : List Char} (h : LiteralText p body) :
    chainParts .inside (body ++ ['\'']) = [body ++ ['\'']] := by
  induction h with
  | nil => rfl
  | char hq hb _ ih =>
      refine chainParts_cons (by simp) ?_
      simpa [ChainState.step, hq, hb] using ih
  | escape _ _ ih =>
      refine chainParts_cons (by simp) (chainParts_cons (by simp [ChainState.step]) ?_)
      simpa [ChainState.step] using ih

/-- A text without quotes leaves the scan outside. -/
theorem ChainState.after_of_notMem {s : List Char} (h : '\'' ∉ s) :
    ChainState.outside.after s = .outside := by
  induction s with
  | nil => rfl
  | cons c s ih =>
      rw [List.mem_cons, not_or] at h
      simpa [ChainState.step, Ne.symm h.1] using ih h.2

theorem ChainState.after_of_blank {s : List Char} (h : blank s) :
    ChainState.outside.after s = .outside :=
  after_of_notMem (Chars.notMem_of_blank h (by decide))

/-- `IsPart s` says that a text closes its literals and has no separator outside them. -/
structure IsPart (s : List Char) : Prop where
  after_outside : ChainState.outside.after s = .outside
  single : chainParts .outside s = [s]

theorem isPart_of_notMem {s : List Char} (hq : '\'' ∉ s) (hs : ';' ∉ s) : IsPart s :=
  ⟨ChainState.after_of_notMem hq, chainParts_of_notMem _ hs⟩

/-- A literal is a part, whatever it holds. -/
theorem isPart_literal {p : Char → Prop} {body : List Char} (h : LiteralText p body) :
    IsPart ('\'' :: body ++ ['\'']) where
  after_outside := by simpa [ChainState.step] using ChainState.after_literal h []
  single := by
    refine chainParts_cons (by simp) ?_
    simpa [ChainState.step] using chainParts_literal h

theorem IsPart.append {a b : List Char} (ha : IsPart a) (hb : IsPart b) : IsPart (a ++ b) where
  after_outside := by rw [ChainState.after_append, ha.after_outside, hb.after_outside]
  single := chainParts_append (show _ = [] ++ [a] from ha.single)
    (by rw [ha.after_outside]; exact hb.single)

/-! ### Expressions of a text -/

/-- The expressions that parts hold: their trimmed texts, without empty ones. -/
def expressionsOf (parts : List (List Char)) : List String :=
  (parts.map trim).filterMap fun part => if part.isEmpty then none else some (String.ofList part)

theorem splitChain_eq (chain : String) :
    splitChain chain = expressionsOf (chainParts .outside chain.toList) := rfl

theorem expressionsOf_append (a b : List (List Char)) :
    expressionsOf (a ++ b) = expressionsOf a ++ expressionsOf b := by
  simp [expressionsOf]

theorem expressionsOf_cons (part : List Char) (rest : List (List Char)) :
    expressionsOf (part :: rest) = expressionsOf [part] ++ expressionsOf rest :=
  expressionsOf_append [part] rest

theorem expressionsOf_singleton (part : List Char) :
    expressionsOf [part] = if blank part then [] else [String.ofList (trim part)] := by
  by_cases h : blank part
  · simp [expressionsOf, Chars.trim_of_blank h, h]
  · have hne : trim part ≠ [] := fun ht => h (Chars.trim_eq_nil_iff.mp ht)
    simp [expressionsOf, hne, h]

theorem expressionsOf_singleton_congr {a b : List Char} (h : trim a = trim b) :
    expressionsOf [a] = expressionsOf [b] := by
  simp only [expressionsOf, List.map_cons, List.map_nil, h]

theorem expressionsOf_append_semicolon {a : List Char} (b : List Char)
    (ha : ChainState.outside.after a = .outside) :
    expressionsOf (chainParts .outside (a ++ ';' :: b)) =
      expressionsOf (chainParts .outside a) ++ expressionsOf (chainParts .outside b) := by
  rw [chainParts_append_semicolon b ha, expressionsOf_append]

/-- **Chains in a row.** A chain that closes its literals and another one have the expressions of
both when a semicolon stands between them. -/
theorem splitChain_append_semicolon {a : String} (ha : ClosesLiterals a.toList) (b : String) :
    splitChain (a ++ ";" ++ b) = splitChain a ++ splitChain b := by
  simpa [splitChain_eq] using expressionsOf_append_semicolon b.toList ha.after_outside

/-- Blanks around a text do not matter to its expressions. -/
theorem expressionsOf_blank_append_blank {a b : List Char} (s : List Char) (ha : blank a)
    (hb : blank b) :
    expressionsOf (chainParts .outside (a ++ s ++ b)) =
      expressionsOf (chainParts .outside s) := by
  have hlead (t : List Char) : expressionsOf (chainParts .outside (a ++ t)) =
      expressionsOf (chainParts .outside t) := by
    obtain ⟨y, ys, ht⟩ := exists_chainParts_eq_cons .outside t
    have hsplit := chainParts_append (show _ = [] ++ [a] from chainParts_of_blank .outside ha)
      (by rw [ChainState.after_of_blank ha]; exact ht)
    rw [hsplit, ht, List.nil_append, expressionsOf_cons, expressionsOf_cons y,
      expressionsOf_singleton_congr (Chars.trim_blank_append ha)]
  obtain ⟨xs, x, hparts⟩ := exists_chainParts_eq_concat .outside s
  have htrail := chainParts_append hparts (chainParts_of_blank (ChainState.outside.after s) hb)
  rw [List.append_assoc, hlead, htrail, expressionsOf_append,
    expressionsOf_singleton_congr (Chars.trim_append_blank hb), ← expressionsOf_append, ← hparts]

/-- Blanks around a chain do not matter. -/
theorem splitChain_trim (chain : String) : splitChain (Text.trim chain) = splitChain chain := by
  obtain ⟨b, hb, hs⟩ := Chars.exists_eq_append_trim chain.toList
  have h := expressionsOf_blank_append_blank (trim chain.toList)
    (Chars.blank_takeWhile chain.toList) hb
  rw [← hs] at h
  simpa [splitChain_eq, Text.trim] using h.symm

/-- A chain has the expressions of its trimmed text, or none if it is blank. -/
theorem splitChain_eq_of_nonblank? (chain : String) :
    splitChain chain = ((Text.nonblank? chain).map splitChain).getD [] := by
  simp only [Text.nonblank?]
  split
  · next h =>
      rw [← splitChain_trim, String.isEmpty_iff.mp h]
      simp [splitChain_eq, chainParts, expressionsOf_singleton]
  · rw [Option.map_some, Option.getD_some, splitChain_trim]

/-- No expression of a chain is empty. -/
theorem ne_empty_of_mem_splitChain {expression chain : String} (h : expression ∈ splitChain chain) :
    expression ≠ "" := by
  obtain ⟨part, -, hpart⟩ := List.mem_filterMap.mp h
  split at hpart
  · cases hpart
  · next hne =>
      rintro rfl
      exact hne (by simpa using hpart)

/-! ### Cutting a chain before an expression -/

/-- The text of parts before the first one that holds an expression, with the separators and with
the blanks in front of the expression. -/
def textBefore (expression : List Char) : List (List Char) → List Char
  | [] => []
  | [part] => if trim part = expression then part.takeWhile isBlank else part
  | part :: next :: rest =>
      if trim part = expression then part.takeWhile isBlank
      else part ++ ';' :: textBefore expression (next :: rest)

/-- The text of a chain before the first place of an expression in it. -/
def chainBefore (expression chain : String) : String :=
  String.ofList (textBefore expression.toList (chainParts .outside chain.toList))

theorem textBefore_cons (expression part : List Char) {rest : List (List Char)} (h : rest ≠ []) :
    textBefore expression (part :: rest) =
      if trim part = expression then part.takeWhile isBlank
      else part ++ ';' :: textBefore expression rest := by
  cases rest with
  | nil => exact absurd rfl h
  | cons next rest => rfl

/-- A part that holds another expression is passed over. -/
theorem takeWhile_expressionsOf_singleton {expression part : List Char}
    (h : trim part ≠ expression) (rest : List String) :
    (expressionsOf [part] ++ rest).takeWhile (· ≠ String.ofList expression) =
      expressionsOf [part] ++ rest.takeWhile (· ≠ String.ofList expression) := by
  refine List.takeWhile_append_of_pos fun e he => ?_
  rw [expressionsOf_singleton] at he
  split at he
  · simp at he
  · simpa [List.mem_singleton.mp he, String.ofList_inj] using h

/-- A part that holds the expression ends the text before it. -/
theorem takeWhile_expressionsOf_trim {part : List Char} (h : trim part ≠ []) (rest : List String) :
    (expressionsOf [part] ++ rest).takeWhile (· ≠ String.ofList (trim part)) = [] := by
  have hb : ¬ blank part := fun hb => h (Chars.trim_of_blank hb)
  simp [expressionsOf_singleton, hb]

theorem expressionsOf_textBefore {expression : List Char} (he : expression ≠ []) (s : List Char) :
    expressionsOf (chainParts .outside (textBefore expression (chainParts .outside s))) =
      (expressionsOf (chainParts .outside s)).takeWhile (· ≠ String.ofList expression) := by
  have hblank (part : List Char) :
      expressionsOf (chainParts .outside (part.takeWhile isBlank)) = [] := by
    rw [chainParts_of_blank _ (Chars.blank_takeWhile part), expressionsOf_singleton,
      if_pos (Chars.blank_takeWhile part)]
  induction s using chainParts_induction with
  | single s hs =>
      rw [hs, textBefore]
      by_cases ht : trim s = expression
      · subst ht
        simpa [hblank] using (takeWhile_expressionsOf_trim he []).symm
      · simpa [ht, hs] using (takeWhile_expressionsOf_singleton ht []).symm
  | semicolon a b ha hparts ih =>
      rw [chainParts_append_semicolon b ha, hparts, List.singleton_append,
        textBefore_cons _ _ (chainParts_ne_nil _ b), expressionsOf_cons a]
      by_cases ht : trim a = expression
      · subst ht
        rw [if_pos rfl, hblank, takeWhile_expressionsOf_trim he]
      · rw [if_neg ht, expressionsOf_append_semicolon _ ha, hparts, ih,
          takeWhile_expressionsOf_singleton ht]

/-- **The expressions before an expression.** The text of a chain before an expression has the
expressions of the chain up to the first place of that one. -/
theorem splitChain_chainBefore {expression : String} (he : expression ≠ "") (chain : String) :
    splitChain (chainBefore expression chain) =
      (splitChain chain).takeWhile (· ≠ expression) := by
  have hne : expression.toList ≠ [] := fun h => he (String.toList_eq_nil_iff.mp h)
  simpa [splitChain_eq, chainBefore] using expressionsOf_textBefore hne chain.toList

theorem exists_eq_textBefore_append {expression : List Char} {s : List Char}
    (h : String.ofList expression ∈ expressionsOf (chainParts .outside s)) :
    ∃ rest, s = textBefore expression (chainParts .outside s) ++ expression ++ rest := by
  have hpart {part : List Char} (ht : trim part = expression) (tail : List Char) :
      ∃ rest, part ++ tail = part.takeWhile isBlank ++ expression ++ rest := by
    obtain ⟨b, -, hb⟩ := Chars.exists_eq_append_trim part
    refine ⟨b ++ tail, ?_⟩
    conv => lhs; rw [hb, ht]
    simp
  have hne {part : List Char} (h : String.ofList expression ∈ expressionsOf [part]) :
      trim part = expression := by
    rw [expressionsOf_singleton] at h
    split at h
    · simp at h
    · exact (String.ofList_inj.mp (List.mem_singleton.mp h)).symm
  induction s using chainParts_induction with
  | single s hs =>
      rw [hs] at h ⊢
      rw [textBefore, if_pos (hne h)]
      simpa using hpart (hne h) []
  | semicolon a b ha hparts ih =>
      rw [chainParts_append_semicolon b ha, hparts, List.singleton_append, expressionsOf_cons,
        List.mem_append] at h
      rw [chainParts_append_semicolon b ha, hparts, List.singleton_append,
        textBefore_cons _ _ (chainParts_ne_nil _ b)]
      by_cases ht : trim a = expression
      · rw [if_pos ht]
        exact hpart ht _
      · obtain ⟨rest, hb⟩ := ih (h.resolve_left fun h => ht (hne h))
        refine ⟨rest, ?_⟩
        rw [if_neg ht]
        conv => lhs; rw [hb]
        simp

/-- What is cut off a chain before an expression begins with the expression. -/
theorem exists_eq_chainBefore_append {expression chain : String}
    (h : expression ∈ splitChain chain) :
    ∃ rest, chain = chainBefore expression chain ++ expression ++ rest := by
  rw [splitChain_eq] at h
  rw [← String.ofList_toList (s := expression)] at h
  obtain ⟨rest, hs⟩ := exists_eq_textBefore_append h
  refine ⟨String.ofList rest, String.toList_inj.mp ?_⟩
  simpa [chainBefore] using hs

example : chainBefore "B()" "A(';'); B(); C()" = "A(';'); " := by decide

end PageMigration.Expression
