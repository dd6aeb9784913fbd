/-!
# Finding, cutting and replacing pieces of text

Texts are lists of characters.  This file holds the cuts of a text at a separator and the
replacement of every occurrence of a piece, read from left to right without overlap.

## Main definitions

* `Chars.stripStart?` : what follows a given beginning, if the text has it.
* `Chars.cut?`, `Chars.cutLast?` : the two sides of the first and of the last separator.
* `Chars.splitOn` : the pieces between all separators.
* `Chars.replaceAll` : the text with every occurrence of a piece replaced.
* `Chars.byteLength` : the length of a text in UTF-8.

## Main results

* `Chars.append_eq_append_cons` : where a character of two texts in a row is.
* `Chars.cut?_eq_some_iff`, `Chars.cutLast?_eq_some_iff` : where a text is cut.
* `Chars.splitOn_flatMap` : pieces are found again between their separators.
-/

namespace PageMigration.Chars

/-- A character of two texts in a row belongs to the first or to the second. -/
theorem append_eq_append_cons {a b before after : List Char} {c : Char}
    (h : a ++ b = before ++ c :: after) :
    (∃ t, a = before ++ c :: t ∧ after = t ++ b) ∨
      ∃ t, before = a ++ t ∧ b = t ++ c :: after := by
  rcases List.append_eq_append_iff.mp h with ⟨t, hbefore, hb⟩ | ⟨t, ha, hafter⟩
  · exact Or.inr ⟨t, hbefore, hb⟩
  · cases t with
    | nil => exact Or.inr ⟨[], by simpa using ha.symm, hafter.symm⟩
    | cons d t =>
        obtain ⟨rfl, rfl⟩ := List.cons.inj hafter
        exact Or.inl ⟨t, ha, rfl⟩

/-- What follows `start` in a text that begins with it. -/
def stripStart? : List Char → List Char → Option (List Char)
  | [], s => some s
  | _ :: _, [] => none
  | a :: start, c :: s => if a = c then stripStart? start s else none

theorem stripStart?_eq_some_iff {start s r : List Char} :
    stripStart? start s = some r ↔ s = start ++ r := by
  induction start generalizing s with
  | nil => simp [stripStart?, eq_comm]
  | cons a start ih =>
      cases s with
      | nil => simp [stripStart?]
      | cons c s =>
          by_cases h : a = c
          · simp [stripStart?, h, ih]
          · simp [stripStart?, h, Ne.symm h]

/-- The two sides of the first character that satisfies `p`, without that character. -/
def cutWhere? (p : Char → Bool) : List Char → Option (List Char × List Char)
  | [] => none
  | c :: s => if p c then some ([], s) else (cutWhere? p s).map fun (a, b) => (c :: a, b)

/-- The two sides of the first separator. -/
def cut? (sep : Char) (s : List Char) : Option (List Char × List Char) :=
  cutWhere? (· == sep) s

/-- The two sides of the last separator. -/
def cutLast? (sep : Char) : List Char → Option (List Char × List Char)
  | [] => none
  | c :: s =>
      match cutLast? sep s with
      | some (a, b) => some (c :: a, b)
      | none => if c = sep then some ([], s) else none

/-- The pieces of a text between separators, at least one. -/
def splitWhere (p : Char → Bool) : List Char → List (List Char)
  | [] => [[]]
  | c :: s =>
      if p c then [] :: splitWhere p s
      else
        match splitWhere p s with
        | [] => [[c]]
        | piece :: rest => (c :: piece) :: rest

/-- The pieces of a text between copies of one separator, at least one. -/
def splitOn (sep : Char) (s : List Char) : List (List Char) :=
  splitWhere (· == sep) s

section Separators

variable {sep : Char} {a b s : List Char}

theorem cut?_cons_self (s : List Char) : cut? sep (sep :: s) = some ([], s) := by
  simp [cut?, cutWhere?]

theorem cut?_cons_of_ne {c : Char} (h : c ≠ sep) (s : List Char) :
    cut? sep (c :: s) = (cut? sep s).map fun (a, b) => (c :: a, b) := by
  simp [cut?, cutWhere?, h]

theorem cut?_eq_none (h : sep ∉ s) : cut? sep s = none := by
  induction s with
  | nil => rfl
  | cons c s ih =>
      rw [List.mem_cons, not_or] at h
      rw [cut?_cons_of_ne (Ne.symm h.1), ih h.2]
      rfl

/-- A text is cut at the first separator. -/
theorem cut?_append (b : List Char) (h : sep ∉ a) : cut? sep (a ++ sep :: b) = some (a, b) := by
  induction a with
  | nil => exact cut?_cons_self b
  | cons c a ih =>
      rw [List.mem_cons, not_or] at h
      rw [List.cons_append, cut?_cons_of_ne (Ne.symm h.1), ih h.2]
      rfl

theorem cut?_eq_none_iff : cut? sep s = none ↔ sep ∉ s := by
  refine ⟨fun h hm => ?_, cut?_eq_none⟩
  obtain ⟨a, b, rfl, ha⟩ := List.eq_append_cons_of_mem hm
  cases (cut?_append b ha).symm.trans h

/-- The first separator parts a text into what is before it and what is after it. -/
theorem cut?_eq_some_iff : cut? sep s = some (a, b) ↔ s = a ++ sep :: b ∧ sep ∉ a := by
  refine ⟨fun h => ?_, fun ⟨hs, ha⟩ => hs ▸ cut?_append b ha⟩
  by_cases hm : sep ∈ s
  · obtain ⟨a', b', rfl, ha⟩ := List.eq_append_cons_of_mem hm
    cases (cut?_append b' ha).symm.trans h
    exact ⟨rfl, ha⟩
  · cases (cut?_eq_none hm).symm.trans h

theorem cutLast?_eq_none (h : sep ∉ s) : cutLast? sep s = none := by
  induction s with
  | nil => rfl
  | cons c s ih =>
      rw [List.mem_cons, not_or] at h
      simp [cutLast?, ih h.2, Ne.symm h.1]

/-- A text is cut at the last separator. -/
theorem cutLast?_append (a : List Char) (h : sep ∉ b) :
    cutLast? sep (a ++ sep :: b) = some (a, b) := by
  induction a with
  | nil => simp [cutLast?, cutLast?_eq_none h]
  | cons c a ih => simp [cutLast?, ih]

theorem cutLast?_eq_none_iff : cutLast? sep s = none ↔ sep ∉ s := by
  refine ⟨fun h => ?_, cutLast?_eq_none⟩
  induction s with
  | nil => simp
  | cons c s ih =>
      cases hs : cutLast? sep s with
      | some cut => simp [cutLast?, hs] at h
      | none =>
          have hc : c ≠ sep := fun hc => by simp [cutLast?, hs, hc] at h
          rw [List.mem_cons, not_or]
          exact ⟨Ne.symm hc, ih hs⟩

/-- The last separator parts a text into what is before it and what is after it. -/
theorem cutLast?_eq_some_iff : cutLast? sep s = some (a, b) ↔ s = a ++ sep :: b ∧ sep ∉ b := by
  refine ⟨fun h => ?_, fun ⟨hs, hb⟩ => hs ▸ cutLast?_append a hb⟩
  induction s generalizing a with
  | nil => cases h
  | cons c s ih =>
      cases hs : cutLast? sep s with
      | some cut =>
          simp only [cutLast?, hs, Option.some.injEq, Prod.mk.injEq] at h
          obtain ⟨rfl, rfl⟩ := h
          obtain ⟨rfl, hb⟩ := ih hs
          exact ⟨rfl, hb⟩
      | none =>
          simp only [cutLast?, hs, Option.ite_none_right_eq_some, Option.some.injEq,
            Prod.mk.injEq] at h
          obtain ⟨rfl, rfl, rfl⟩ := h
          exact ⟨rfl, cutLast?_eq_none_iff.mp hs⟩

theorem splitOn_cons_self (s : List Char) : splitOn sep (sep :: s) = [] :: splitOn sep s := by
  simp [splitOn, splitWhere]

theorem splitOn_cons_of_ne {c : Char} {piece : List Char} {rest : List (List Char)} (h : c ≠ sep)
    (hs : splitOn sep s = piece :: rest) : splitOn sep (c :: s) = (c :: piece) :: rest := by
  rw [splitOn] at hs
  simp [splitOn, splitWhere, h, hs]

theorem splitOn_of_notMem (h : sep ∉ s) : splitOn sep s = [s] := by
  induction s with
  | nil => rfl
  | cons c s ih =>
      rw [List.mem_cons, not_or] at h
      exact splitOn_cons_of_ne (Ne.symm h.1) (ih h.2)

theorem splitOn_append (b : List Char) (h : sep ∉ a) :
    splitOn sep (a ++ sep :: b) = a :: splitOn sep b := by
  induction a with
  | nil => exact splitOn_cons_self b
  | cons c a ih =>
      rw [List.mem_cons, not_or] at h
      exact splitOn_cons_of_ne (Ne.symm h.1) (ih h.2)

/-- Pieces that are written with separators between them are found again. -/
theorem splitOn_flatMap {piece : List Char} {pieces : List (List Char)} (h : sep ∉ piece)
    (hs : ∀ p ∈ pieces, sep ∉ p) :
    splitOn sep (piece ++ pieces.flatMap (sep :: ·)) = piece :: pieces := by
  induction pieces generalizing piece with
  | nil => simpa using splitOn_of_notMem h
  | cons next rest ih =>
      rw [List.forall_mem_cons] at hs
      rw [List.flatMap_cons, List.cons_append, splitOn_append _ h, ih hs.1 hs.2]

end Separators

/-- The two sides of the first occurrence of a piece. -/
def cutAt? (piece : List Char) : List Char → Option (List Char × List Char)
  | [] => if piece.isEmpty then some ([], []) else none
  | c :: s =>
      match stripStart? piece (c :: s) with
      | some rest => some ([], rest)
      | none => (cutAt? piece s).map fun (a, b) => (c :: a, b)

/-- A piece parts a text into what is before it and what is after it. -/
theorem eq_append_of_cutAt? {piece s a b : List Char} (h : cutAt? piece s = some (a, b)) :
    s = a ++ piece ++ b := by
  induction s generalizing a with
  | nil =>
      cases piece with
      | nil => simp_all [cutAt?]
      | cons c piece => simp [cutAt?] at h
  | cons c s ih =>
      cases hstrip : stripStart? piece (c :: s) with
      | some rest =>
          simp only [cutAt?, hstrip, Option.some.injEq, Prod.mk.injEq] at h
          obtain ⟨rfl, rfl⟩ := h
          exact stripStart?_eq_some_iff.mp hstrip
      | none =>
          simp only [cutAt?, hstrip, Option.map_eq_some_iff, Prod.mk.injEq] at h
          obtain ⟨⟨before, after⟩, hcut, rfl, rfl⟩ := h
          rw [ih hcut]
          rfl

/-- A piece is found behind a text without its first character. -/
theorem cutAt?_append {c : Char} {piece a : List Char} (b : List Char) (h : c ∉ a) :
    cutAt? (c :: piece) (a ++ (c :: piece) ++ b) = some (a, b) := by
  induction a with
  | nil =>
      have hstrip : stripStart? (c :: piece) (c :: (piece ++ b)) = some b :=
        stripStart?_eq_some_iff.mpr rfl
      simp only [List.nil_append, List.cons_append, cutAt?, hstrip]
  | cons d a ih =>
      rw [List.mem_cons, not_or] at h
      have hstrip : stripStart? (c :: piece) (d :: (a ++ (c :: piece) ++ b)) = none := by
        cases hcut : stripStart? (c :: piece) (d :: (a ++ (c :: piece) ++ b)) with
        | none => rfl
        | some rest => cases h.1 (List.cons.inj (stripStart?_eq_some_iff.mp hcut)).1.symm
      rw [List.cons_append, List.cons_append, cutAt?, hstrip, ih h.2]
      rfl

/-- A text that holds a given piece. -/
def holds (piece s : List Char) : Bool :=
  (cutAt? piece s).isSome

/-- Replacement of a piece with `skip` characters of the last occurrence still to be passed
over. -/
def replaceFrom (piece by_ : List Char) : Nat → List Char → List Char
  | _, [] => []
  | skip + 1, _ :: s => replaceFrom piece by_ skip s
  | 0, c :: s =>
      if piece.isPrefixOf (c :: s) then by_ ++ replaceFrom piece by_ (piece.length - 1) s
      else c :: replaceFrom piece by_ 0 s

/-- The text with every occurrence of a nonempty piece replaced, from left to right. -/
def replaceAll (piece by_ s : List Char) : List Char :=
  replaceFrom piece by_ 0 s

/-- The pieces of a text between occurrences of a nonempty separator text, with `skip`
characters of the last separator still to be passed over. -/
def splitAtFrom (sep : List Char) : Nat → List Char → List (List Char)
  | _, [] => [[]]
  | skip + 1, _ :: s => splitAtFrom sep skip s
  | 0, c :: s =>
      if sep.isPrefixOf (c :: s) then [] :: splitAtFrom sep (sep.length - 1) s
      else
        match splitAtFrom sep 0 s with
        | [] => [[c]]
        | piece :: rest => (c :: piece) :: rest

/-- The pieces of a text between occurrences of a nonempty separator text, at least one. -/
def splitAtAll (sep s : List Char) : List (List Char) :=
  splitAtFrom sep 0 s

/-- A text without any of the characters that satisfy `p` at its ends. -/
def trimWhere (p : Char → Bool) (s : List Char) : List Char :=
  ((s.dropWhile p).reverse.dropWhile p).reverse

section Pieces

variable {p : Char → Bool} {w a s : List Char}

/-- A piece without certain characters is not found among them. -/
theorem isInfix_append_iff (hw : ∀ c ∈ w, p c = false) (ha : ∀ c ∈ a, p c) :
    w <:+: a ++ s ↔ w <:+: s := by
  induction a with
  | nil => rfl
  | cons c a ih =>
      rw [List.forall_mem_cons] at ha
      rw [List.cons_append, List.infix_cons_iff, ih ha.2, or_iff_right_iff_imp]
      intro hstart
      cases w with
      | nil => exact List.nil_infix
      | cons d w =>
          obtain ⟨rfl, -⟩ := List.cons_prefix_cons.mp hstart
          simp [ha.1] at hw

theorem isInfix_dropWhile_iff (hw : ∀ c ∈ w, p c = false) : w <:+: s.dropWhile p ↔ w <:+: s := by
  conv => rhs; rw [← List.takeWhile_append_dropWhile (p := p) (l := s)]
  exact (isInfix_append_iff hw (List.all_eq_true.mp List.all_takeWhile)).symm

/-- A piece is not lost when other characters are taken off the ends. -/
theorem isInfix_trimWhere_iff (hw : ∀ c ∈ w, p c = false) : w <:+: trimWhere p s ↔ w <:+: s := by
  have hreverse : ∀ c ∈ w.reverse, p c = false := fun c hc => hw c (List.mem_reverse.mp hc)
  rw [trimWhere, ← List.reverse_infix, List.reverse_reverse, isInfix_dropWhile_iff hreverse,
    List.reverse_infix, isInfix_dropWhile_iff hw]

theorem trimWhere_isInfix (p : Char → Bool) (s : List Char) : trimWhere p s <:+: s := by
  have hend : ((s.dropWhile p).reverse.dropWhile p).reverse <+: s.dropWhile p := by
    rw [← List.reverse_suffix, List.reverse_reverse]
    exact List.dropWhile_suffix p
  exact hend.isInfix.trans (List.dropWhile_suffix p).isInfix

end Pieces

/-- A text without the characters that satisfy `p` at its end. -/
def trimEndWhere (p : Char → Bool) (s : List Char) : List Char :=
  (s.reverse.dropWhile p).reverse

/-- The length of a text in UTF-8. -/
def byteLength (s : List Char) : Nat :=
  s.foldr (fun c n => c.utf8Size + n) 0

@[simp] theorem byteLength_nil : byteLength [] = 0 := rfl

@[simp] theorem byteLength_cons (c : Char) (s : List Char) :
    byteLength (c :: s) = c.utf8Size + byteLength s := rfl

@[simp] theorem byteLength_append (a b : List Char) :
    byteLength (a ++ b) = byteLength a + byteLength b := by
  induction a with
  | nil => simp
  | cons c a ih => simp [ih, Nat.add_assoc]

theorem byteLength_eq_utf8ByteSize (s : List Char) :
    byteLength s = (String.ofList s).utf8ByteSize := by
  induction s with
  | nil => rfl
  | cons c s ih =>
      rw [byteLength_cons, ih, String.ofList_cons, String.utf8ByteSize_append,
        String.utf8ByteSize_singleton]

end PageMigration.Chars
