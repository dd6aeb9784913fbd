import Mathlib.Data.List.Forall2
import Mathlib.Tactic.SplitIfs
import PageMigration.Chars.Pattern
import PageMigration.Chars.Search

/-!
# What patterns match

A matcher hands each way to match a pattern to a continuation until one of them succeeds.  What it
can match is a relation between a pattern, a piece of text, the character before the piece and the
text after it; the matcher succeeds exactly if the continuation does after some piece in the
relation.  So a pattern occurs in a text exactly if some piece of the text matches it.

## Main definitions

* `Pattern.Matches` : the pieces that match a pattern, between what is around them.
* `Pattern.Begins` : patterns whose pieces begin with a character of a class.
* `Pattern.Reaches` : what a replacement in a text comes to.
* `Pattern.Origin` : where a character of a text with replacements comes from.

## Main results

* `Pattern.exists_of_run`, `Pattern.isSome_run` : the matcher finds a piece if there is one.
* `Pattern.occursIn_iff` : the texts in which a pattern occurs.
* `Pattern.Begins.origin` : where the characters of a text with replacements come from.
-/

namespace PageMigration.Pattern

/-- The last character of a piece, or the one before it if the piece is empty. -/
def lastOf (before : Option Char) (piece : List Char) : Option Char :=
  piece.getLast?.or before

/-- The pieces that match a pattern, between the character before them and the text after them. -/
inductive Matches : Pattern → Option Char → List Char → List Char → Prop where
  | empty {before : Option Char} {after : List Char} : Matches .empty before [] after
  | one {accepts : Char → Bool} {before : Option Char} {c : Char} {after : List Char}
      (h : accepts c) : Matches (.one accepts) before [c] after
  | edge {before : Option Char} {after : List Char} (h : wordAt before != wordAt after.head?) :
      Matches .edge before [] after
  | seq {p q : Pattern} {before : Option Char} {m n after : List Char}
      (hfirst : Matches p before m (n ++ after)) (hsecond : Matches q (lastOf before m) n after) :
      Matches (.seq p q) before (m ++ n) after
  | preferred {p q : Pattern} {before : Option Char} {m after : List Char}
      (h : Matches p before m after) : Matches (.either p q) before m after
  | other {p q : Pattern} {before : Option Char} {m after : List Char}
      (h : Matches q before m after) : Matches (.either p q) before m after
  | stop {greedy : Bool} {p : Pattern} {before : Option Char} {after : List Char} :
      Matches (.star greedy p) before [] after
  | again {greedy : Bool} {p : Pattern} {before : Option Char} {m n after : List Char}
      (hne : m ≠ []) (hfirst : Matches p before m (n ++ after))
      (hmore : Matches (.star greedy p) (lastOf before m) n after) :
      Matches (.star greedy p) before (m ++ n) after

@[simp] theorem lastOf_nil (before : Option Char) : lastOf before [] = before := rfl

theorem lastOf_append (before : Option Char) (m n : List Char) :
    lastOf before (m ++ n) = lastOf (lastOf before m) n := by
  rw [lastOf, lastOf, lastOf, List.getLast?_append, Option.or_assoc]

theorem lastOf_cons (before : Option Char) (c : Char) (m : List Char) :
    lastOf before (c :: m) = lastOf (some c) m :=
  lastOf_append before [c] m

theorem lastOf_eq_getLast? (before : Option Char) {m : List Char} (h : m ≠ []) :
    lastOf before m = m.getLast? := by
  rw [lastOf, List.getLast?_eq_some_getLast h, Option.some_or]

@[simp] theorem lastOf_singleton (before : Option Char) (c : Char) :
    lastOf before [c] = some c := rfl

/-! ### Matchers -/

variable {p q : Pattern} {before : Option Char} {s r m rest after : List Char} {k : Continuation}

theorem firstOf_eq_some {a : Option (List Char)} {b : Unit → Option (List Char)}
    (h : firstOf a b = some r) : a = some r ∨ a = none ∧ b () = some r := by
  cases a with
  | none => exact .inr ⟨rfl, h⟩
  | some a => exact .inl h

theorem isSome_firstOf {a : Option (List Char)} {b : Unit → Option (List Char)} :
    (firstOf a b).isSome ↔ a.isSome ∨ (b ()).isSome := by
  cases a with
  | none => simp [firstOf]
  | some a => simp [firstOf]

theorem exists_of_iterate {body : Pattern} {greedy : Bool}
    (hbody : ∀ {before s k}, body.run before s k = some r →
      ∃ m rest, s = m ++ rest ∧ Matches body before m rest ∧ k (lastOf before m) rest = some r)
    {n : Nat} (h : iterate body.run greedy n before s k = some r) :
    ∃ m rest, s = m ++ rest ∧ Matches (.star greedy body) before m rest ∧
      k (lastOf before m) rest = some r := by
  induction n generalizing before s with
  | zero => exact ⟨[], s, rfl, .stop, h⟩
  | succ n ih =>
      have hstop (h : k before s = some r) : ∃ m rest, s = m ++ rest ∧
          Matches (.star greedy body) before m rest ∧ k (lastOf before m) rest = some r :=
        ⟨[], s, rfl, .stop, h⟩
      have hmore (h : (body.run before s fun before' s' =>
          if s'.length < s.length then iterate body.run greedy n before' s' k else none) =
          some r) : ∃ m rest, s = m ++ rest ∧ Matches (.star greedy body) before m rest ∧
            k (lastOf before m) rest = some r := by
        obtain ⟨m, mid, rfl, hmatch, hrest⟩ := hbody h
        split_ifs at hrest with hlength
        obtain ⟨m', rest, rfl, hmatch', hk⟩ := ih hrest
        have hne : m ≠ [] := by
          rintro rfl
          exact Nat.lt_irrefl _ hlength
        rw [← lastOf_append] at hk
        exact ⟨m ++ m', rest, (List.append_assoc ..).symm, .again hne hmatch hmatch', hk⟩
      rw [iterate] at h
      split_ifs at h with hgreedy
      · rcases firstOf_eq_some h with h | ⟨-, h⟩
        · exact hmore h
        · exact hstop h
      · rcases firstOf_eq_some h with h | ⟨-, h⟩
        · exact hstop h
        · exact hmore h

/-- A matcher that succeeds has matched a piece, and its continuation succeeds after that. -/
theorem exists_of_run (h : p.run before s k = some r) :
    ∃ m rest, s = m ++ rest ∧ Matches p before m rest ∧ k (lastOf before m) rest = some r := by
  induction p generalizing before s k with
  | empty => exact ⟨[], s, rfl, .empty, h⟩
  | one accepts =>
      cases s with
      | nil => cases h
      | cons c s =>
          rw [run] at h
          split_ifs at h with hc
          exact ⟨[c], s, rfl, .one hc, h⟩
  | edge =>
      rw [run] at h
      split_ifs at h with hedge
      exact ⟨[], s, rfl, .edge hedge, h⟩
  | seq p q ihp ihq =>
      obtain ⟨m, mid, rfl, hfirst, hmid⟩ := ihp h
      obtain ⟨n, rest, rfl, hsecond, hk⟩ := ihq hmid
      rw [← lastOf_append] at hk
      exact ⟨m ++ n, rest, (List.append_assoc ..).symm, .seq hfirst hsecond, hk⟩
  | either p q ihp ihq =>
      rcases firstOf_eq_some h with h | ⟨-, h⟩
      · obtain ⟨m, rest, hs, hmatch, hk⟩ := ihp h
        exact ⟨m, rest, hs, .preferred hmatch, hk⟩
      · obtain ⟨m, rest, hs, hmatch, hk⟩ := ihq h
        exact ⟨m, rest, hs, .other hmatch, hk⟩
  | star greedy body ih => exact exists_of_iterate ih h

theorem isSome_iterate {body : Pattern} {greedy : Bool}
    (hbody : ∀ {before m rest k}, Matches body before m rest →
      (k (lastOf before m) rest).isSome → (body.run before (m ++ rest) k).isSome)
    (h : Matches (.star greedy body) before m rest) (hk : (k (lastOf before m) rest).isSome)
    {n : Nat} (hn : m.length ≤ n) :
    (iterate body.run greedy n before (m ++ rest) k).isSome := by
  -- The induction is on the row of pieces; the pattern stays the same along it.
  generalize hp : Pattern.star greedy body = p at h
  induction h generalizing n with
  | stop =>
      cases n with
      | zero => exact hk
      | succ n =>
          rw [iterate]
          split_ifs
          · exact isSome_firstOf.mpr (.inr hk)
          · exact isSome_firstOf.mpr (.inl hk)
  | @again _ _ before m m' rest hne hfirst hmore _ ih =>
      cases hp
      rw [lastOf_append] at hk
      have hpos := List.length_pos_iff.mpr hne
      rw [List.length_append] at hn
      obtain ⟨n, rfl⟩ : ∃ n', n = n' + 1 := ⟨n - 1, by omega⟩
      have hrest : (iterate body.run greedy n (lastOf before m) (m' ++ rest) k).isSome :=
        ih hk (by omega) rfl
      have hmore : (body.run before (m ++ m' ++ rest) fun before' s' =>
          if s'.length < (m ++ m' ++ rest).length then iterate body.run greedy n before' s' k
          else none).isSome := by
        rw [List.append_assoc]
        refine hbody hfirst ?_
        rwa [if_pos (by simp only [List.length_append]; omega)]
      rw [iterate]
      split_ifs
      · exact isSome_firstOf.mpr (.inl hmore)
      · exact isSome_firstOf.mpr (.inr hmore)
  | _ => cases hp

/-- A matcher succeeds if its continuation succeeds after some piece that matches. -/
theorem isSome_run (h : Matches p before m rest) (hk : (k (lastOf before m) rest).isSome) :
    (p.run before (m ++ rest) k).isSome := by
  induction p generalizing before m rest k with
  | empty =>
      cases h
      exact hk
  | one accepts =>
      cases h with
      | one hc => simpa [run, hc] using hk
  | edge =>
      cases h with
      | edge hedge => simpa [run, hedge] using hk
  | seq p q ihp ihq =>
      cases h with
      | @seq _ _ _ m n _ hfirst hsecond =>
          rw [lastOf_append] at hk
          rw [List.append_assoc]
          exact ihp hfirst (ihq hsecond hk)
  | either p q ihp ihq =>
      cases h with
      | preferred h => exact isSome_firstOf.mpr (.inl (ihp h hk))
      | other h => exact isSome_firstOf.mpr (.inr (ihq h hk))
  | star greedy body ih =>
      exact isSome_iterate ih h hk (by rw [List.length_append]; omega)

theorem exists_of_rest?_eq_some (h : p.rest? before s = some rest) :
    ∃ m, s = m ++ rest ∧ Matches p before m rest := by
  obtain ⟨m, rest, rfl, hmatch, heq⟩ := exists_of_run h
  cases heq
  exact ⟨m, rfl, hmatch⟩

theorem rest?_ne_none (h : Matches p before m rest) : p.rest? before (m ++ rest) ≠ none :=
  Option.isSome_iff_ne_none.mp (isSome_run h rfl)

/-! ### Common patterns -/

variable {accepts : Char → Bool} {c : Char}

theorem matches_one_iff : Matches (.one accepts) before m after ↔ ∃ c, m = [c] ∧ accepts c := by
  constructor
  · intro h
    cases h with
    | one hc => exact ⟨_, rfl, hc⟩
  · rintro ⟨c, rfl, hc⟩
    exact .one hc

theorem matches_empty_iff : Matches .empty before m after ↔ m = [] := by
  constructor
  · intro h
    cases h
    rfl
  · rintro rfl
    exact .empty

theorem matches_edge_iff : Matches .edge before m after ↔
    m = [] ∧ wordAt before ≠ wordAt after.head? := by
  constructor
  · intro h
    cases h with
    | edge h => exact ⟨rfl, bne_iff_ne.mp h⟩
  · rintro ⟨rfl, h⟩
    exact .edge (bne_iff_ne.mpr h)

theorem matches_seq_iff : Matches (.seq p q) before m after ↔
    ∃ n n', m = n ++ n' ∧ Matches p before n (n' ++ after) ∧
      Matches q (lastOf before n) n' after := by
  constructor
  · intro h
    cases h with
    | seq hfirst hsecond => exact ⟨_, _, rfl, hfirst, hsecond⟩
  · rintro ⟨n, n', rfl, hfirst, hsecond⟩
    exact .seq hfirst hsecond

theorem matches_either_iff : Matches (.either p q) before m after ↔
    Matches p before m after ∨ Matches q before m after := by
  constructor
  · intro h
    cases h with
    | preferred h => exact .inl h
    | other h => exact .inr h
  · rintro (h | h)
    · exact .preferred h
    · exact .other h

theorem matches_star_one_iff {greedy : Bool} :
    Matches (.star greedy (.one accepts)) before m after ↔ ∀ c ∈ m, accepts c := by
  constructor
  · intro h
    generalize hp : Pattern.star greedy (.one accepts) = p at h
    induction h with
    | stop => nofun
    | again hne hfirst _ _ ih =>
        cases hp
        obtain ⟨c, rfl, hc⟩ := matches_one_iff.mp hfirst
        exact List.forall_mem_cons.mpr ⟨hc, ih rfl⟩
    | _ => cases hp
  · intro h
    induction m generalizing before with
    | nil => exact .stop
    | cons c m ih =>
        rw [List.forall_mem_cons] at h
        exact .again (List.cons_ne_nil c []) (.one h.1) (ih h.2)

theorem matches_many_iff : Matches (many accepts) before m after ↔ ∀ c ∈ m, accepts c :=
  matches_star_one_iff

theorem matches_anything : Matches anything before m after :=
  matches_star_one_iff.mpr fun _ _ => rfl

theorem matches_some_iff : Matches (some_ accepts) before m after ↔
    m ≠ [] ∧ ∀ c ∈ m, accepts c := by
  rw [some_, matches_seq_iff]
  constructor
  · rintro ⟨_, n, rfl, hfirst, hmore⟩
    obtain ⟨c, rfl, hc⟩ := matches_one_iff.mp hfirst
    exact ⟨List.cons_ne_nil _ _, List.forall_mem_cons.mpr ⟨hc, matches_many_iff.mp hmore⟩⟩
  · rintro ⟨hne, h⟩
    obtain ⟨c, m, rfl⟩ := List.exists_cons_of_ne_nil hne
    rw [List.forall_mem_cons] at h
    exact ⟨[c], m, rfl, .one h.1, matches_many_iff.mpr h.2⟩

/-- A given text matches its spellings. -/
theorem matches_word_iff {text : String} : Matches (word text) before m after ↔
    List.Forall₂ (fun a c => Chars.sameLetter a c) text.toList m := by
  rw [word]
  induction text.toList generalizing before m with
  | nil => rw [List.foldr_nil, matches_empty_iff, List.forall₂_nil_left_iff]
  | cons a letters ih =>
      rw [List.foldr_cons, matches_seq_iff, List.forall₂_cons_left_iff]
      constructor
      · rintro ⟨_, n, rfl, hfirst, hmore⟩
        obtain ⟨c, rfl, hc⟩ := matches_one_iff.mp hfirst
        exact ⟨c, n, hc, ih.mp hmore, rfl⟩
      · rintro ⟨c, n, hc, hmore, rfl⟩
        exact ⟨[c], n, rfl, .one hc, ih.mpr hmore⟩

theorem matches_optional_iff : Matches (optional p) before m after ↔
    Matches p before m after ∨ m = [] := by
  rw [optional, matches_either_iff, matches_empty_iff]

/-- A repetition of characters goes on as long as it can if what comes then succeeds. -/
theorem run_many_of_eq_some
    (h : k (lastOf before (s.takeWhile accepts)) (s.dropWhile accepts) = some r) :
    (many accepts).run before s k = some r := by
  have hiterate (n : Nat) (hn : s.length ≤ n) :
      iterate (run (.one accepts)) true n before s k = some r := by
    induction n generalizing before s with
    | zero =>
        obtain rfl := List.length_eq_zero_iff.mp (Nat.le_zero.mp hn)
        exact h
    | succ n ih =>
        rw [iterate, if_pos rfl]
        cases s with
        | nil => exact h
        | cons c s =>
            by_cases hc : accepts c
            · rw [List.takeWhile_cons_of_pos hc, List.dropWhile_cons_of_pos hc, lastOf_cons] at h
              have hmore := ih h (Nat.le_of_succ_le_succ hn)
              change firstOf (if accepts c then if s.length < (c :: s).length then
                iterate (run (.one accepts)) true n (some c) s k else none else none) _ = some r
              have hshorter : s.length < (c :: s).length := Nat.lt_succ_self _
              rw [if_pos hc, if_pos hshorter, hmore]
              rfl
            · rw [List.takeWhile_cons_of_neg hc, List.dropWhile_cons_of_neg hc] at h
              simpa [run, hc, firstOf] using h
  exact hiterate s.length (Nat.le_refl _)

theorem rest?_some_of_pos (hc : accepts c) :
    (some_ accepts).rest? before (c :: s) = some (s.dropWhile accepts) := by
  change (if accepts c then (many accepts).run (some c) s (fun _ rest => some rest) else none) = _
  rw [if_pos hc]
  exact run_many_of_eq_some rfl

/-! ### Occurrences -/

theorem isSome_findFrom?_iff : (p.findFrom? before s).isSome ↔
    ∃ a m rest, s = a ++ m ++ rest ∧ Matches p (lastOf before a) m rest := by
  induction s generalizing before with
  | nil =>
      rw [findFrom?, Option.isSome_map]
      constructor
      · intro h
        obtain ⟨rest, hrest⟩ := Option.isSome_iff_exists.mp h
        obtain ⟨m, hm, hmatch⟩ := exists_of_rest?_eq_some hrest
        exact ⟨[], m, rest, hm, hmatch⟩
      · rintro ⟨a, m, rest, hs, hmatch⟩
        obtain ⟨rfl, rfl, rfl⟩ : a = [] ∧ m = [] ∧ rest = [] := by simpa using hs.symm
        exact Option.isSome_iff_ne_none.mpr (rest?_ne_none hmatch)
  | cons c s ih =>
      rw [findFrom?]
      cases hrest : p.rest? before (c :: s) with
      | some rest =>
          obtain ⟨m, hm, hmatch⟩ := exists_of_rest?_eq_some hrest
          exact iff_of_true rfl ⟨[], m, rest, hm, hmatch⟩
      | none =>
          dsimp only
          rw [ih]
          constructor
          · rintro ⟨a, m, rest, rfl, hmatch⟩
            refine ⟨c :: a, m, rest, rfl, ?_⟩
            rwa [lastOf_cons]
          · rintro ⟨a, m, rest, hs, hmatch⟩
            cases a with
            | nil =>
                rw [List.nil_append] at hs
                rw [hs] at hrest
                exact absurd hrest (rest?_ne_none hmatch)
            | cons d a =>
                obtain ⟨rfl, rfl⟩ := List.cons.inj hs
                rw [lastOf_cons] at hmatch
                exact ⟨a, m, rest, rfl, hmatch⟩

/-- A pattern occurs in a text exactly if some piece of the text matches it. -/
theorem occursIn_iff : p.occursIn s ↔
    ∃ a m rest, s = a ++ m ++ rest ∧ Matches p (lastOf none a) m rest :=
  isSome_findFrom?_iff

/-! ### Replacements -/

/-- The pieces that match a pattern begin with a character of a class. -/
def Begins (p : Pattern) (class_ : Char → Prop) : Prop :=
  ∀ before m after, Matches p before m after → ∃ c m', m = c :: m' ∧ class_ c

variable {class_ : Char → Prop} {by_ : List Char → List Char}

theorem Begins.one_seq (h : ∀ c, accepts c → class_ c) (q : Pattern) :
    (seq (.one accepts) q).Begins class_ := by
  intro before m after hmatch
  cases hmatch with
  | seq hfirst hsecond =>
      cases hfirst with
      | one hc => exact ⟨_, _, rfl, h _ hc⟩

theorem Begins.either (hp : p.Begins class_) (hq : q.Begins class_) :
    (Pattern.either p q).Begins class_ := by
  intro before m after hmatch
  cases hmatch with
  | preferred h => exact hp _ _ _ h
  | other h => exact hq _ _ _ h

theorem Begins.seq (hp : p.Begins class_) (q : Pattern) : (Pattern.seq p q).Begins class_ := by
  intro before m after hmatch
  cases hmatch with
  | seq hfirst hsecond =>
      obtain ⟨c, m', rfl, hc⟩ := hp _ _ _ hfirst
      exact ⟨c, m' ++ _, rfl, hc⟩

/-- No piece matches where a text goes on with a character of another class. -/
theorem Begins.rest?_eq_none (hp : p.Begins class_) (h : ∀ c ∈ s.head?, ¬ class_ c) :
    p.rest? before s = none := by
  rw [Option.eq_none_iff_forall_ne_some]
  intro rest hrest
  obtain ⟨m, rfl, hmatch⟩ := exists_of_rest?_eq_some hrest
  obtain ⟨c, m', rfl, hc⟩ := hp _ _ _ hmatch
  exact h c rfl hc

/-- Such a piece is not empty. -/
theorem Begins.length_lt (hp : p.Begins class_) (h : p.rest? before s = some rest) :
    rest.length < s.length := by
  obtain ⟨m, rfl, hmatch⟩ := exists_of_rest?_eq_some h
  obtain ⟨c, m, rfl, -⟩ := hp _ _ _ hmatch
  rw [List.length_append, List.length_cons]
  omega

theorem takenFrom_append (m rest : List Char) : takenFrom (m ++ rest) rest = m := by
  rw [takenFrom, List.length_append, Nat.add_sub_cancel, List.take_left]

theorem replaceFrom_nil (p : Pattern) (by_ : List Char → List Char) (before : Option Char) :
    p.replaceFrom by_ before [] = [] := by
  rw [replaceFrom]

/-- A character at which no piece begins is kept. -/
theorem replaceFrom_cons (h : p.rest? before (c :: s) = none) :
    p.replaceFrom by_ before (c :: s) = c :: p.replaceFrom by_ (some c) s := by
  rw [replaceFrom, h]

/-- A piece that matches is replaced. -/
theorem replaceFrom_append (hne : m ≠ []) (h : p.rest? before (m ++ rest) = some rest) :
    p.replaceFrom by_ before (m ++ rest) = by_ m ++ p.replaceFrom by_ m.getLast? rest := by
  obtain ⟨c, m, rfl⟩ := List.exists_cons_of_ne_nil hne
  have htaken : takenFrom (c :: (m ++ rest)) rest = c :: m := takenFrom_append (c :: m) rest
  rw [List.cons_append] at h ⊢
  rw [replaceFrom, h]
  dsimp only
  rw [dif_pos (by rw [List.length_append]; omega), htaken]

/-- Characters at which no piece begins are kept. -/
theorem replaceFrom_append_of_forall {x y : List Char}
    (h : ∀ a c m, x = a ++ c :: m → ∀ before, p.rest? before (c :: m ++ y) = none) :
    p.replaceFrom by_ before (x ++ y) = x ++ p.replaceFrom by_ (lastOf before x) y := by
  induction x generalizing before with
  | nil => rfl
  | cons c x ih =>
      have hrest : ∀ a d m, x = a ++ d :: m → ∀ before, p.rest? before (d :: m ++ y) = none :=
        fun a d m hx => h (c :: a) d m (by rw [hx, List.cons_append])
      have hnone : p.rest? before (c :: (x ++ y)) = none := h [] c x rfl before
      rw [List.cons_append, replaceFrom_cons hnone, ih hrest, List.cons_append, lastOf_cons]

theorem Begins.replaceFrom_append (hp : p.Begins class_) {x y : List Char}
    (h : ∀ c ∈ x, ¬ class_ c) :
    p.replaceFrom by_ before (x ++ y) = x ++ p.replaceFrom by_ (lastOf before x) y := by
  refine replaceFrom_append_of_forall fun a c m hx before => hp.rest?_eq_none ?_
  rintro _ ⟨⟩
  exact h c (by rw [hx]; simp)

/-- What a replacement in a text comes to: it goes over a character at which no piece begins, or
over a piece that is replaced. -/
inductive Reaches (p : Pattern) :
    Option Char → List Char → Option Char → List Char → Prop where
  | refl {before : Option Char} {s : List Char} : Reaches p before s before s
  | keep {before before' : Option Char} {c : Char} {s v : List Char}
      (h : p.rest? before (c :: s) = none) (hmore : Reaches p (some c) s before' v) :
      Reaches p before (c :: s) before' v
  | pass {before before' : Option Char} {m rest v : List Char} (hne : m ≠ [])
      (h : p.rest? before (m ++ rest) = some rest) (hmore : Reaches p m.getLast? rest before' v) :
      Reaches p before (m ++ rest) before' v

theorem Reaches.trans {before' before'' : Option Char} {u v : List Char}
    (h : Reaches p before s before' u) (h' : Reaches p before' u before'' v) :
    Reaches p before s before'' v := by
  induction h with
  | refl => exact h'
  | keep hnone _ ih => exact .keep hnone (ih h')
  | pass hne hrest _ ih => exact .pass hne hrest (ih h')

theorem Reaches.suffix {before' : Option Char} {v : List Char} (h : Reaches p before s before' v) :
    ∃ a, s = a ++ v := by
  induction h with
  | refl => exact ⟨[], rfl⟩
  | @keep _ _ c _ _ _ _ ih =>
      obtain ⟨a, rfl⟩ := ih
      exact ⟨c :: a, rfl⟩
  | @pass _ _ m _ _ _ _ _ ih =>
      obtain ⟨a, rfl⟩ := ih
      exact ⟨m ++ a, (List.append_assoc ..).symm⟩

theorem Begins.reaches_append (hp : p.Begins class_) {x : List Char} (h : ∀ c ∈ x, ¬ class_ c)
    (y : List Char) (before : Option Char) : Reaches p before (x ++ y) (lastOf before x) y := by
  induction x generalizing before with
  | nil => exact .refl
  | cons c x ih =>
      rw [List.forall_mem_cons] at h
      rw [List.cons_append, lastOf_cons]
      exact .keep (hp.rest?_eq_none (by rintro _ ⟨⟩; exact h.1)) (ih h.2 _)

/-- Where a character of a text with replacements comes from, and what follows it there: it has been
kept at a place where no piece begins, or it belongs to what has been put in place of a piece. -/
inductive Origin (p : Pattern) (by_ : List Char → List Char) (before : Option Char)
    (s : List Char) : Char → List Char → Prop where
  | kept {before' : Option Char} {v : List Char} {c : Char}
      (hreach : Reaches p before s before' (c :: v)) (h : p.rest? before' (c :: v) = none) :
      Origin p by_ before s c (p.replaceFrom by_ (some c) v)
  | put {m rest x y : List Char} {c : Char} (h : by_ m = x ++ c :: y) :
      Origin p by_ before s c (y ++ p.replaceFrom by_ m.getLast? rest)

/-- Every character of a text with replacements comes from the text. -/
theorem Begins.origin (hp : p.Begins class_) {a v : List Char} {c : Char}
    (h : p.replaceFrom by_ before s = a ++ c :: v) : Origin p by_ before s c v := by
  fun_induction replaceFrom p by_ before s generalizing a with
  | case1 before => cases a <;> cases h
  | case2 before d s rest hrest hlength taken =>
      rename_i ih
      obtain ⟨m, hm, hmatch⟩ := exists_of_rest?_eq_some hrest
      have htaken : taken = m := by
        simp only [taken, hm, takenFrom_append]
      have hne : m ≠ [] := by
        rintro rfl
        rw [List.nil_append] at hm
        rw [← hm] at hlength
        exact Nat.lt_irrefl _ hlength
      have hpass {v : List Char} (hmore : Origin p by_ m.getLast? rest c v) :
          Origin p by_ before (d :: s) c v := by
        rw [hm] at hrest ⊢
        cases hmore with
        | kept hreach hnone => exact .kept (.pass hne hrest hreach) hnone
        | put hby => exact .put hby
      rw [htaken] at h ih
      rcases Chars.append_eq_append_cons h with ⟨y, hby, rfl⟩ | ⟨a', -, htail⟩
      · exact .put hby
      · exact hpass (ih htail)
  | case3 before d s rest hrest hlength ih => exact absurd (hp.length_lt hrest) hlength
  | case4 before d s hrest ih =>
      cases a with
      | nil =>
          obtain ⟨rfl, rfl⟩ := List.cons.inj h
          exact .kept .refl hrest
      | cons _ a =>
          cases ih (List.cons.inj h).2 with
          | kept hreach hnone => exact .kept (.keep hrest hreach) hnone
          | put hby => exact .put hby

end PageMigration.Pattern
