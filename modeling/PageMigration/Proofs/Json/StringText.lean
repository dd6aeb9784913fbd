import Mathlib.Data.List.TakeWhile
import Mathlib.Tactic.SplitIfs
import PageMigration.Json.Reader

/-!
# Texts of strings

A string is read from behind its opening quote up to the next quote that no backslash hides.  What
is read has no control character, and it is longer than the string by at least one character for
each escape and for the closing quote.  So quotes and backslashes in a text tell how long a string
it can hold at most.

## Main definitions

* `Json.marks` : the number of quotes and backslashes in a text.

## Main results

* `Json.exists_of_readStringFrom?` : what has been read of a text.
* `Json.readStringFrom?_append` : characters that stand for themselves.
* `Json.ofText?_eq_string_iff` : the texts that hold a string and nothing else.
-/

namespace PageMigration.Json

/-- The number of quotes and backslashes in a text. -/
def marks (s : List Char) : Nat :=
  s.countP fun c => c == '"' || c == '\\'

@[simp] theorem marks_nil : marks [] = 0 := rfl

@[simp] theorem marks_append (s t : List Char) : marks (s ++ t) = marks s + marks t :=
  List.countP_append

theorem marks_cons (c : Char) (s : List Char) :
    marks (c :: s) = marks s + if c = '"' ∨ c = '\\' then 1 else 0 := by
  simp only [marks, List.countP_cons, Bool.or_eq_true, beq_iff_eq]

theorem marks_le_length (s : List Char) : marks s ≤ s.length :=
  List.countP_le_length

/-! ### What has been read -/

theorem le_toNat_of_valueIn? {base n : Nat} {c : Char} (h : Digits.valueIn? base c = some n) :
    0x20 ≤ c.toNat := by
  rw [← Nat.not_lt]
  intro hlow
  have hbelow {d : Char} (hd : 0x20 ≤ d.toNat) : ¬ d ≤ c := fun hle => by
    have hle' : d.toNat ≤ c.toNat := hle
    omega
  have hdigit : c.isDigit = false := by
    rw [Char.isDigit, Bool.and_eq_false_iff, decide_eq_false_iff_not]
    exact Or.inl (hbelow (d := '0') (by decide))
  have hnot : Digits.valueIn? base c = none := by
    simp [Digits.valueIn?, hdigit, hbelow (d := 'a') (by decide), hbelow (d := 'A') (by decide)]
  cases hnot.symm.trans h

theorem exists_of_readHex? {s rest : List Char} {n : Nat} (h : readHex? s = some (n, rest)) :
    ∃ digits, s = digits ++ rest ∧ digits.length = 4 ∧ ∀ c ∈ digits, 0x20 ≤ c.toNat := by
  unfold readHex? at h
  split at h
  case h_2 => cases h
  case h_1 a b c d s =>
    simp only [Option.bind_eq_bind, Option.bind_eq_some_iff, Option.some.injEq,
      Prod.mk.injEq] at h
    obtain ⟨va, ha, vb, hb, vc, hc, vd, hd, -, rfl⟩ := h
    refine ⟨[a, b, c, d], rfl, rfl, ?_⟩
    simp only [List.forall_mem_cons, List.not_mem_nil, false_imp_iff, implies_true, and_true]
    exact ⟨le_toNat_of_valueIn? ha, le_toNat_of_valueIn? hb, le_toNat_of_valueIn? hc,
      le_toNat_of_valueIn? hd⟩

theorem exists_of_readUnicodeEscape? {s rest : List Char} {c : Char}
    (h : readUnicodeEscape? s = some (c, rest)) :
    ∃ read, s = read ++ rest ∧ 4 ≤ read.length ∧ ∀ d ∈ read, 0x20 ≤ d.toNat := by
  simp only [readUnicodeEscape?, Option.bind_eq_bind, Option.bind_eq_some_iff, Prod.exists] at h
  obtain ⟨n, tail, hhex, h⟩ := h
  obtain ⟨digits, rfl, hlength, hdigits⟩ := exists_of_readHex? hhex
  split_ifs at h with hhigh hlow
  · -- the second half of a pair follows
    split at h
    case h_2 => cases h
    case h_1 tail =>
      simp only [Option.bind_eq_some_iff, Prod.exists] at h
      obtain ⟨m, tail, hhex, h⟩ := h
      obtain ⟨further, rfl, -, hfurther⟩ := exists_of_readHex? hhex
      split_ifs at h with hpair
      obtain ⟨-, rfl⟩ := Prod.mk.inj (Option.some.inj h)
      refine ⟨digits ++ '\\' :: 'u' :: further, by simp, by simp [hlength], ?_⟩
      simp only [List.forall_mem_append, List.forall_mem_cons]
      exact ⟨hdigits, by decide, by decide, hfurther⟩
  · obtain ⟨-, rfl⟩ := Prod.mk.inj (Option.some.inj h)
    exact ⟨digits, rfl, Nat.le_of_eq hlength.symm, hdigits⟩

theorem le_toNat_of_simpleEscape? {letter c : Char} (h : simpleEscape? letter = some c) :
    0x20 ≤ letter.toNat := by
  unfold simpleEscape? at h
  split at h
  case h_9 => cases h
  all_goals decide

/-- What has been read of a text holds no control character, and it is longer than the string by
half the number of its quotes and backslashes. -/
theorem exists_of_readStringFrom? {fuel : Nat} {s t rest : List Char}
    (h : readStringFrom? fuel s = some (t, rest)) :
    ∃ read, s = read ++ rest ∧ (∀ c ∈ read, 0x20 ≤ c.toNat) ∧
      2 * t.length + marks read < 2 * read.length := by
  fun_induction readStringFrom? fuel s generalizing t with
  | case1 => cases h
  | case2 => cases h
  | case3 fuel s =>
      obtain ⟨rfl, rfl⟩ := Prod.mk.inj (Option.some.inj h)
      exact ⟨['"'], rfl, List.forall_mem_singleton.mpr (by decide), by decide⟩
  | case4 fuel s hquote ih =>
      simp only [Option.bind_eq_some_iff, Option.map_eq_some_iff, Prod.exists] at h
      obtain ⟨c, tail, hescape, cs, tail', hrest, heq⟩ := h
      obtain ⟨rfl, rfl⟩ := Prod.mk.inj heq
      obtain ⟨code, rfl, -, hcode⟩ := exists_of_readUnicodeEscape? hescape
      obtain ⟨read, rfl, hread, hlonger⟩ := ih tail hrest
      refine ⟨'\\' :: 'u' :: (code ++ read), by simp, ?_, ?_⟩
      · simp only [List.forall_mem_cons, List.forall_mem_append]
        exact ⟨by decide, by decide, hcode, hread⟩
      · have hmarks := marks_le_length code
        simp only [marks_cons, marks_append, List.length_cons, List.length_append]
        rw [if_neg (by decide), if_pos (by decide)]
        omega
  | case5 fuel letter s hletter hquote ih =>
      simp only [Option.bind_eq_some_iff, Option.map_eq_some_iff, Prod.exists] at h
      obtain ⟨c, hescape, cs, tail, hrest, heq⟩ := h
      obtain ⟨rfl, rfl⟩ := Prod.mk.inj heq
      obtain ⟨read, rfl, hread, hlonger⟩ := ih hrest
      refine ⟨'\\' :: letter :: read, rfl, ?_, ?_⟩
      · simp only [List.forall_mem_cons]
        exact ⟨by decide, le_toNat_of_simpleEscape? hescape, hread⟩
      · simp only [marks_cons, List.length_cons]
        split_ifs <;> omega
  | case6 => cases h
  | case7 => cases h
  | case8 fuel c s hquote hbackslash hcontrol ih =>
      obtain ⟨⟨cs, tail⟩, hrest, heq⟩ := Option.map_eq_some_iff.mp h
      obtain ⟨rfl, rfl⟩ := Prod.mk.inj heq
      obtain ⟨read, rfl, hread, hlonger⟩ := ih hrest
      refine ⟨c :: read, rfl, ?_, ?_⟩
      · rw [List.forall_mem_cons]
        exact ⟨Nat.le_of_not_lt hcontrol, hread⟩
      · rw [marks_cons, if_neg (not_or.mpr ⟨hquote, hbackslash⟩)]
        simp only [List.length_cons]
        omega

/-! ### Reading -/

/-- Characters other than quotes, backslashes and control characters stand for themselves. -/
theorem readStringFrom?_append {a : List Char}
    (h : ∀ c ∈ a, 0x20 ≤ c.toNat ∧ c ≠ '"' ∧ c ≠ '\\') (fuel : Nat) (s : List Char) :
    readStringFrom? (a.length + fuel) (a ++ s) =
      (readStringFrom? fuel s).map fun (t, rest) => (a ++ t, rest) := by
  induction a with
  | nil => simp
  | cons c a ih =>
      rw [List.forall_mem_cons] at h
      obtain ⟨⟨hcontrol, hquote, hbackslash⟩, ha⟩ := h
      have hstep (n : Nat) (r : List Char) : readStringFrom? (n + 1) (c :: r) =
          (readStringFrom? n r).map fun (t, rest) => (c :: t, rest) := by
        simp [readStringFrom?, hquote, hbackslash, Nat.not_lt.mpr hcontrol]
      rw [List.length_cons, Nat.add_right_comm, List.cons_append, hstep, ih ha, Option.map_map]
      rfl

theorem eq_nil_of_skipBlanks_eq_nil {s rest : List Char} (hrest : rest <:+ s ++ ['"'])
    (h : skipBlanks rest = []) : rest = [] := by
  rw [skipBlanks, List.dropWhile_eq_nil_iff] at h
  rcases List.suffix_concat_iff.mp hrest with hnil | ⟨init, rfl, -⟩
  · exact hnil
  · exact absurd (h '"' (by simp)) (by decide)

/-- A text between quotes holds a string and nothing else if it is read up to its last quote. -/
theorem ofText?_quotes_eq_some_iff {s t : String} :
    ofText? ("\"" ++ s ++ "\"") = some (.string t) ↔
      readString? (s.toList ++ ['"']) = some (t, []) := by
  have htext : ("\"" ++ s ++ "\"").toList = '"' :: (s.toList ++ ['"']) := by simp
  have hvalue (n : Nat) : readValue? (n + 1) deepest ('"' :: (s.toList ++ ['"'])) =
      (readString? (s.toList ++ ['"'])).map fun found => (.string found.1, found.2) := by
    have hblanks : skipBlanks ('"' :: (s.toList ++ ['"'])) = '"' :: (s.toList ++ ['"']) := rfl
    rw [readValue?, hblanks]
    rfl
  simp only [ofText?, htext, hvalue]
  cases hread : readString? (s.toList ++ ['"']) with
  | none => simp
  | some found =>
      obtain ⟨u, rest⟩ := found
      have hrest : rest <:+ s.toList ++ ['"'] := by
        obtain ⟨⟨cs, rest'⟩, hfrom, heq⟩ := Option.map_eq_some_iff.mp hread
        obtain ⟨-, rfl⟩ := Prod.mk.inj heq
        obtain ⟨read, hsplit, -, -⟩ := exists_of_readStringFrom? hfrom
        exact ⟨read, hsplit.symm⟩
      have hempty : (skipBlanks rest).isEmpty = true ↔ rest = [] := by
        rw [List.isEmpty_iff]
        exact ⟨eq_nil_of_skipBlanks_eq_nil hrest, fun hnil => by rw [hnil]; rfl⟩
      simp [hempty, and_comm]

end PageMigration.Json
