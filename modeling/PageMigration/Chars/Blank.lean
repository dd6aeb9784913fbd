/-!
# White space in text

A character is blank when Unicode gives it the property `White_Space`.  This file holds the
property, the trimming of blanks from either end of a text, and the split of a text into its
blank-separated words.

## Main definitions

* `Chars.isBlank` : the property itself.
* `Chars.trim` : a text without the blanks at its ends.
* `Chars.words` : the maximal runs of characters that are not blank.

## Main results

* `Chars.exists_eq_append_trim` : a text is its trimmed text with blanks at its ends.
* `Chars.trim_blank_append`, `Chars.trim_append_blank` : blanks at the ends do not matter.
-/

namespace PageMigration.Chars

/-- The characters with the Unicode property `White_Space`. -/
def isBlank (c : Char) : Bool :=
  let n := c.toNat
  (9 ≤ n && n ≤ 13) || n == 0x20 || n == 0x85 || n == 0xA0 || n == 0x1680 ||
    (0x2000 ≤ n && n ≤ 0x200A) || n == 0x2028 || n == 0x2029 || n == 0x202F || n == 0x205F ||
    n == 0x3000

/-- A text without the blanks at its start. -/
def trimStart (s : List Char) : List Char :=
  s.dropWhile isBlank

/-- A text without the blanks at its end. -/
def trimEnd (s : List Char) : List Char :=
  (s.reverse.dropWhile isBlank).reverse

/-- A text without the blanks at its ends. -/
def trim (s : List Char) : List Char :=
  trimEnd (trimStart s)

/-- A text that holds nothing but blanks. -/
def blank (s : List Char) : Bool :=
  s.all isBlank

/-- The words of a text, with the word that is being read held back in `word`, reversed. -/
def wordsFrom (word : List Char) : List Char → List (List Char)
  | [] => if word.isEmpty then [] else [word.reverse]
  | c :: s =>
      if isBlank c then
        if word.isEmpty then wordsFrom [] s else word.reverse :: wordsFrom [] s
      else wordsFrom (c :: word) s

/-- The maximal runs of characters that are not blank, in order. -/
def words (s : List Char) : List (List Char) :=
  wordsFrom [] s

@[simp] theorem trim_nil : trim [] = [] := rfl

@[simp] theorem blank_nil : blank [] = true := rfl

theorem blank_append {a b : List Char} : blank (a ++ b) = (blank a && blank b) := by
  simp [blank]

/-- A text of blanks has no character of any other kind. -/
theorem notMem_of_blank {s : List Char} (h : blank s) {c : Char} (hc : isBlank c = false) :
    c ∉ s := fun hm => by
  have := List.all_eq_true.mp h c hm
  simp [hc] at this

theorem trimStart_append_blank {a b : List Char} (h : blank a) :
    trimStart (a ++ b) = trimStart b := by
  induction a with
  | nil => rfl
  | cons c a ih =>
      simp only [blank, List.all_cons, Bool.and_eq_true] at h
      simp only [trimStart, List.cons_append, List.dropWhile_cons, h.1, if_true]
      exact ih h.2

theorem trimStart_of_blank {s : List Char} (h : blank s) : trimStart s = [] := by
  simpa [trimStart] using trimStart_append_blank (b := []) h

theorem trimEnd_append_blank {a b : List Char} (h : blank b) :
    trimEnd (a ++ b) = trimEnd a := by
  have hb : ∀ c ∈ b.reverse, isBlank c := fun c hc =>
    List.all_eq_true.mp h c (List.mem_reverse.mp hc)
  simp [trimEnd, List.dropWhile_append_of_pos hb]

/-- Blanks in front of a text do not matter to the trimmed text. -/
theorem trim_blank_append {a s : List Char} (h : blank a) : trim (a ++ s) = trim s := by
  rw [trim, trimStart_append_blank h, trim]

/-- Blanks behind a text do not matter to the trimmed text. -/
theorem trim_append_blank {s b : List Char} (h : blank b) : trim (s ++ b) = trim s := by
  by_cases hs : blank s
  · rw [trim_blank_append hs, trim, trim, trimStart_of_blank h, trimStart_of_blank hs]
  · have hne : (s.dropWhile isBlank).isEmpty = false := by
      rw [List.isEmpty_eq_false_iff]
      intro hnil
      refine hs (List.all_eq_true.mpr fun c hc => ?_)
      rw [← List.takeWhile_append_dropWhile (p := isBlank) (l := s), hnil, List.append_nil] at hc
      exact List.all_eq_true.mp List.all_takeWhile c hc
    have hstart : trimStart (s ++ b) = trimStart s ++ b := by
      simp [trimStart, List.dropWhile_append, hne]
    rw [trim, hstart, trimEnd_append_blank h, trim]

theorem trim_of_blank {s : List Char} (h : blank s) : trim s = [] := by
  simpa using trim_append_blank (s := []) h

theorem blank_takeWhile (s : List Char) : blank (s.takeWhile isBlank) :=
  List.all_takeWhile

/-- Trimming takes blanks off the two ends of a text and nothing else. -/
theorem exists_eq_append_trim (s : List Char) :
    ∃ b, blank b ∧ s = s.takeWhile isBlank ++ trim s ++ b := by
  refine ⟨((trimStart s).reverse.takeWhile isBlank).reverse, by simp [blank], ?_⟩
  have hend : trimStart s = trim s ++ ((trimStart s).reverse.takeWhile isBlank).reverse := by
    rw [trim, trimEnd, ← List.reverse_append, List.takeWhile_append_dropWhile,
      List.reverse_reverse]
  rw [List.append_assoc, ← hend, trimStart, List.takeWhile_append_dropWhile]

theorem trim_isInfix (s : List Char) : trim s <:+: s := by
  obtain ⟨b, -, h⟩ := exists_eq_append_trim s
  exact ⟨s.takeWhile isBlank, b, h.symm⟩

theorem trim_eq_nil_iff {s : List Char} : trim s = [] ↔ blank s := by
  refine ⟨fun h => ?_, trim_of_blank⟩
  obtain ⟨b, hb, hs⟩ := exists_eq_append_trim s
  rw [hs, h, blank_append, blank_append, blank_takeWhile, hb]
  rfl

theorem trimStart_append_cons {c : Char} (a b : List Char) (hc : isBlank c = false) :
    trimStart (a ++ c :: b) = trimStart a ++ c :: b := by
  induction a with
  | nil => simp [trimStart, hc]
  | cons d a ih =>
      by_cases hd : isBlank d
      · simpa [trimStart, hd] using ih
      · simp [trimStart, hd]

theorem trimEnd_append_cons {c : Char} (a b : List Char) (hc : isBlank c = false) :
    trimEnd (a ++ c :: b) = a ++ c :: trimEnd b := by
  have h := trimStart_append_cons b.reverse a.reverse hc
  rw [trimStart] at h
  simp [trimEnd, h, trimStart]

/-- A character that is not blank parts the trimming of the two ends. -/
theorem trim_append_cons {c : Char} (a b : List Char) (hc : isBlank c = false) :
    trim (a ++ c :: b) = trimStart a ++ c :: trimEnd b := by
  rw [trim, trimStart_append_cons a b hc, trimEnd_append_cons _ b hc]

theorem trimEnd_concat {c : Char} (s : List Char) (hc : isBlank c = false) :
    trimEnd (s ++ [c]) = s ++ [c] := by
  exact trimEnd_append_cons s [] hc

/-- What stands between two characters that are not blank is not trimmed. -/
theorem trim_cons_concat {c d : Char} (s : List Char) (hc : isBlank c = false)
    (hd : isBlank d = false) : trim (c :: s ++ [d]) = c :: s ++ [d] := by
  have h := trim_append_cons [] (s ++ [d]) hc
  rwa [trimEnd_concat s hd] at h

theorem notMem_trimStart {c : Char} {s : List Char} (h : c ∉ s) : c ∉ trimStart s :=
  fun hm => h ((List.dropWhile_sublist isBlank).subset hm)

@[simp] theorem trim_trimStart (s : List Char) : trim (trimStart s) = trim s := by
  conv => rhs; rw [← List.takeWhile_append_dropWhile (p := isBlank) (l := s)]
  rw [trim_blank_append (blank_takeWhile s), trimStart]

@[simp] theorem trim_trimEnd (s : List Char) : trim (trimEnd s) = trim s := by
  have hs : s = trimEnd s ++ (s.reverse.takeWhile isBlank).reverse := by
    rw [trimEnd, ← List.reverse_append, List.takeWhile_append_dropWhile, List.reverse_reverse]
  conv => rhs; rw [hs]
  rw [trim_append_blank (by simp [blank])]

@[simp] theorem trim_trim (s : List Char) : trim (trim s) = trim s := by
  calc trim (trim s) = trim (trimStart s) := trim_trimEnd (trimStart s)
    _ = trim s := trim_trimStart s

/-- Trimming leaves something of every text that is not blank. -/
theorem blank_trim (s : List Char) : blank (trim s) = blank s := by
  rw [Bool.eq_iff_iff, ← trim_eq_nil_iff, trim_trim, trim_eq_nil_iff]

theorem trimStart_eq_self_iff {s : List Char} :
    trimStart s = s ↔ ∀ c ∈ s.head?, isBlank c = false := by
  cases s with
  | nil => simp [trimStart]
  | cons c s =>
      by_cases hc : isBlank c
      · have hne : trimStart (c :: s) ≠ c :: s := fun h => by
          have hle := (List.dropWhile_sublist isBlank (l := s)).length_le
          have hlength := congrArg List.length h
          simp only [trimStart, List.dropWhile_cons, hc, if_true, List.length_cons] at hlength
          omega
        simp [hne, hc]
      · simp [trimStart, hc]

/-- What a text without blanks at its start begins with has none either. -/
theorem trimStart_eq_self_of_isPrefix_trimStart {s t : List Char} (h : s <+: trimStart t) :
    trimStart s = s := by
  obtain ⟨rest, hrest⟩ := h
  rw [trimStart_eq_self_iff]
  intro c hc
  have hhead := List.head?_dropWhile_not isBlank t
  rw [show t.dropWhile isBlank = s ++ rest from hrest.symm, List.head?_append, hc] at hhead
  simpa using hhead

/-- What a trimmed text begins with begins without blanks too. -/
theorem trimStart_eq_self_of_isPrefix {s t : List Char} (h : s <+: trim t) : trimStart s = s := by
  have hend : trim t <+: trimStart t := by
    have hsuffix := List.dropWhile_suffix isBlank (l := (trimStart t).reverse)
    rw [trim, trimEnd]
    simpa using List.reverse_prefix.mpr hsuffix
  exact trimStart_eq_self_of_isPrefix_trimStart (h.trans hend)

/-- What a trimmed text ends with ends without blanks too. -/
theorem trimEnd_eq_self_of_isSuffix {s t : List Char} (h : s <:+ trim t) : trimEnd s = s := by
  have hprefix : s.reverse <+: trimStart (trimStart t).reverse := by
    have hreverse := List.reverse_prefix.mpr h
    rwa [trim, trimEnd, List.reverse_reverse] at hreverse
  have hstart : s.reverse.dropWhile isBlank = s.reverse :=
    trimStart_eq_self_of_isPrefix_trimStart hprefix
  rw [trimEnd, hstart, List.reverse_reverse]

theorem trimEnd_eq_self {s : List Char} (h : ∀ c ∈ s, isBlank c = false) : trimEnd s = s := by
  rcases List.eq_nil_or_concat s with rfl | ⟨s, c, rfl⟩
  · rfl
  · rw [List.concat_eq_append] at h ⊢
    exact trimEnd_concat s (h c (by simp))

/-- A text without blanks is not changed by trimming. -/
theorem trim_eq_self {s : List Char} (h : ∀ c ∈ s, isBlank c = false) : trim s = s := by
  have hstart : trimStart s = s :=
    trimStart_eq_self_iff.mpr fun c hc => h c (List.mem_of_mem_head? hc)
  rw [trim, hstart, trimEnd_eq_self h]

end PageMigration.Chars
