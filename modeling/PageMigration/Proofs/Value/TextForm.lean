import Mathlib.Algebra.Ring.Nat
import PageMigration.Proofs.Calendar.InternetForm
import PageMigration.Value.Argument

/-!
# Values are read again from their text

A value is read from a text, and has a text form of its own, which may be stored as the value of a
property and read again.  Both ways lead back to the value, for every type and every text that the
value was read from, with one exception: the text form of an instant in a year that has not four
digits is no longer read as an instant, so that the fallback of instants takes its place.

## Main definitions

* `Argument.IsFarInstant` : the instants that are not read again.

## Main results

* `readInteger?_intText`, `readBool?_boolText`, `Guid.ofText?_text` : the types one by one.
* `ValueType.coerce_text_coerce` : what becomes of a value that is read again from its text.
-/

namespace PageMigration

/-! ### Integers -/

theorem natural?_toDigits (n : Nat) : natural? (Nat.toDigits 10 n) = some n := by
  have hdigits : (Nat.toDigits 10 n).all Char.isDigit :=
    List.all_eq_true.mpr fun _ hc => Digits.isDigit_of_mem_toDigits hc
  simp [natural?, hdigits]

theorem trim_intText (n : Int) : Chars.trim (intText n).toList = (intText n).toList := by
  refine Chars.trim_eq_self fun c hc => ?_
  rw [intText, String.toList_append, List.mem_append, String.toList_ofList] at hc
  rcases hc with hc | hc
  · split at hc
    · rw [List.mem_singleton.mp hc]
      decide
    · cases hc
  · exact Chars.isBlank_of_isAlphanum (by simp [Char.isAlphanum, Digits.isDigit_of_mem_toDigits hc])

/-- An integer of thirty-two bits is read again from its digits. -/
theorem readInteger?_intText {n : Int} (hlower : -2147483648 ≤ n) (hupper : n ≤ 2147483647) :
    readInteger? (intText n) = some n := by
  simp only [readInteger?, trim_intText, Option.filter_eq_some_iff]
  refine ⟨?_, by simp [hlower, hupper]⟩
  by_cases hn : n < 0
  · have htext : (intText n).toList = '-' :: Nat.toDigits 10 n.natAbs := by simp [intText, hn]
    have habs : -(n.natAbs : Int) = n := by omega
    rw [htext]
    simp only [natural?_toDigits]
    exact congrArg some habs
  · have htext : (intText n).toList = Nat.toDigits 10 n.natAbs := by simp [intText, hn]
    have habs : (n.natAbs : Int) = n := by omega
    have hsign (c : Char) (s : List Char) (hc : c.isDigit = false) :
        Nat.toDigits 10 n.natAbs ≠ c :: s := fun heq => by
      have hdigit := Digits.isDigit_of_mem_toDigits (heq ▸ List.mem_cons_self)
      rw [hc] at hdigit
      cases hdigit
    rw [htext]
    split
    · next heq => exact absurd heq (hsign _ _ (by decide))
    · next heq => exact absurd heq (hsign _ _ (by decide))
    · rw [natural?_toDigits]
      exact congrArg some habs

theorem bounds_of_readInteger? {raw : String} {n : Int} (h : readInteger? raw = some n) :
    -2147483648 ≤ n ∧ n ≤ 2147483647 := by
  have hfilter := (Option.filter_eq_some_iff.mp h).2
  simpa using hfilter

/-! ### Truth values -/

theorem readBool?_boolText (b : Bool) : readBool? (boolText b) = some b := by
  cases b <;> decide

/-! ### Identifiers -/

namespace Guid

theorem valueIn?_hexDigit {n : Nat} (h : n < 16) : Digits.valueIn? 16 (hexDigit n) = some n := by
  have hall : ∀ n < 16, Digits.valueIn? 16 (hexDigit n) = some n := by decide
  exact hall n h

theorem isAlphanum_hexDigit {n : Nat} (h : n < 16) : (hexDigit n).isAlphanum := by
  have hall : ∀ n < 16, (hexDigit n).isAlphanum := by decide
  exact hall n h

theorem length_digitsFrom (n count : Nat) : (digitsFrom n count).length = count := by
  induction count generalizing n with
  | zero => rfl
  | succ count ih => simp [digitsFrom, ih]

theorem isAlphanum_of_mem_digitsFrom {n count : Nat} {c : Char} (h : c ∈ digitsFrom n count) :
    c.isAlphanum := by
  induction count generalizing n with
  | zero => cases h
  | succ count ih =>
      rcases List.mem_append.mp h with h | h
      · exact ih h
      · exact List.mem_singleton.mp h ▸ isAlphanum_hexDigit (Nat.mod_lt n (by decide))

/-- The digits of a number are read again, behind any others and in front of any others. -/
theorem hexValueFrom?_digitsFrom (m n count : Nat) (rest : List Char) :
    hexValueFrom? m (digitsFrom n count ++ rest) =
      hexValueFrom? (m * 16 ^ count + n % 16 ^ count) rest := by
  induction count generalizing n rest with
  | zero => simp [digitsFrom, Nat.mod_one]
  | succ count ih =>
      have hlast : n % 16 < 16 := Nat.mod_lt n (by decide)
      have hvalue : 16 * (m * 16 ^ count + n / 16 % 16 ^ count) + n % 16 =
          m * 16 ^ (count + 1) + n % 16 ^ (count + 1) := by
        rw [Nat.pow_succ', Nat.mod_mul, Nat.mul_add, Nat.mul_left_comm]
        omega
      rw [digitsFrom, List.append_assoc, ih, List.singleton_append, hexValueFrom?,
        valueIn?_hexDigit hlast, Option.bind_some, hvalue]

theorem ofDigits?_digits (g : Guid) : ofDigits? g.digits = some g := by
  have hvalue : hexValueFrom? 0 g.digits = some g.bits.toNat := by
    have h := hexValueFrom?_digitsFrom 0 g.bits.toNat 32 []
    have hlt : g.bits.toNat < 16 ^ 32 := g.bits.isLt
    rw [List.append_nil, Nat.zero_mul, Nat.zero_add, Nat.mod_eq_of_lt hlt] at h
    exact h
  have hlength : g.digits.length = 32 := length_digitsFrom _ _
  rw [ofDigits?, if_pos hlength, hvalue, Option.map_some, BitVec.ofNat_toNat, BitVec.setWidth_eq]

theorem mem_hyphenate {lengths : List Nat} {s : List Char} {c : Char}
    (h : c ∈ hyphenate lengths s) : c = '-' ∨ c ∈ s := by
  fun_induction hyphenate lengths s with
  | case1 => cases h
  | case2 s n => exact Or.inr (List.mem_of_mem_take h)
  | case3 s n lengths hne ih =>
      rw [List.mem_append, List.mem_cons] at h
      rcases h with h | h | h
      · exact Or.inr (List.mem_of_mem_take h)
      · exact Or.inl h
      · exact (ih h).imp_right List.mem_of_mem_drop

/-- The groups between hyphens are found again. -/
theorem splitOn_hyphenate {lengths : List Nat} {s : List Char} (hs : '-' ∉ s)
    (hlengths : lengths ≠ []) (hsum : lengths.sum = s.length) :
    (Chars.splitOn '-' (hyphenate lengths s)).map List.length = lengths ∧
      (Chars.splitOn '-' (hyphenate lengths s)).flatten = s := by
  have htake (n : Nat) : '-' ∉ s.take n := fun h => hs (List.mem_of_mem_take h)
  have hdrop (n : Nat) : '-' ∉ s.drop n := fun h => hs (List.mem_of_mem_drop h)
  fun_induction hyphenate lengths s with
  | case1 => exact absurd rfl hlengths
  | case2 n s =>
      have hn : n = s.length := by simpa using hsum
      rw [Chars.splitOn_of_notMem (htake n), hn]
      simp
  | case3 n s lengths hne ih =>
      rw [List.sum_cons] at hsum
      obtain ⟨hgroups, hdigits⟩ := ih (hdrop n) hne (by rw [List.length_drop]; omega)
        (fun m h => hdrop n (List.mem_of_mem_take h)) fun m h => hdrop n (List.mem_of_mem_drop h)
      rw [Chars.splitOn_append _ (htake n), List.map_cons, List.flatten_cons, hgroups, hdigits,
        List.length_take, Nat.min_eq_left (by omega), List.take_append_drop]
      exact ⟨rfl, rfl⟩

/-- An identifier is read again from its text. -/
theorem ofText?_text (g : Guid) : ofText? g.text.toList = some g := by
  have hhyphen : '-' ∉ g.digits := fun h =>
    absurd (isAlphanum_of_mem_digitsFrom h) (by decide)
  have hlength : g.digits.length = 32 := length_digitsFrom _ _
  have hsum : groupLengths.sum = g.digits.length := by
    rw [hlength]
    rfl
  obtain ⟨hgroups, hdigits⟩ := splitOn_hyphenate hhyphen (by decide) hsum
  have hlonger : (hyphenate groupLengths g.digits).length ≠ 32 := by
    simp [groupLengths, hyphenate, hlength]
  have hbare : ofDigits? (hyphenate groupLengths g.digits) = none := by
    rw [ofDigits?, if_neg hlonger]
  have hhyphenated : ofHyphenated? (hyphenate groupLengths g.digits) = some g := by
    simp only [ofHyphenated?, hgroups, hdigits, if_true, ofDigits?_digits]
  rw [ofText?, text, String.toList_ofList, hbare, hhyphenated]
  rfl

end Guid

/-- The text of an identifier has no blanks. -/
theorem trim_guidText (g : Guid) : Chars.trim g.text.toList = g.text.toList := by
  refine Chars.trim_eq_self fun c hc => ?_
  rw [Guid.text, String.toList_ofList] at hc
  rcases Guid.mem_hyphenate hc with rfl | hc
  · decide
  · exact Chars.isBlank_of_isAlphanum (Guid.isAlphanum_of_mem_digitsFrom hc)

/-! ### Values -/

/-- The instants whose year has not four digits. -/
def Argument.IsFarInstant : Argument → Prop
  | .dateTime t => ¬ t.HasFourDigitYear
  | _ => False

instance : (value : Argument) → Decidable value.IsFarInstant
  | .string _ | .integer _ | .bool _ | .guid _ => inferInstanceAs (Decidable False)
  | .dateTime t => inferInstanceAs (Decidable (¬ t.HasFourDigitYear))

/-- An instant that was read from a text lies in the calendar, and so does the fallback. -/
theorem isValid_getD_readInstant? (raw : String) :
    ((readInstant? raw).getD instantFallback).IsValid := by
  cases h : readInstant? raw with
  | some t => exact Instant.isValid_of_ofText? h
  | none =>
      exact ⟨⟨by decide, by decide, by decide, by decide⟩, by decide, by decide, by decide⟩

/-- An instant is read again from its text, or the fallback is read in place of it. -/
theorem coerce_text_of_isValid {t : Instant} (h : t.IsValid) :
    ValueType.dateTime.coerce t.text =
      if (Argument.dateTime t).IsFarInstant then .dateTime instantFallback else .dateTime t := by
  by_cases hy : t.HasFourDigitYear
  · have hnear : ¬ (Argument.dateTime t).IsFarInstant := not_not_intro hy
    rw [if_neg hnear, ValueType.coerce, readInstant?, Instant.ofText?_text h hy, Option.getD_some]
  · have hfar : (Argument.dateTime t).IsFarInstant := hy
    rw [if_pos hfar, ValueType.coerce, readInstant?,
      Instant.ofText?_text_of_not_hasFourDigitYear hy, Option.getD_none]

/-- **Values are read again.** A value that was read from a text as a value of a type is read again
from its own text, unless it is an instant in a year that has not four digits.  The fallback of
instants is read in place of such an instant. -/
theorem ValueType.coerce_text_coerce (type : ValueType) (raw : String) :
    type.coerce (type.coerce raw).text =
      if (type.coerce raw).IsFarInstant then .dateTime instantFallback else type.coerce raw := by
  cases type with
  | string => rfl
  | integer =>
      have hbounds : -2147483648 ≤ (readInteger? raw).getD integerFallback ∧
          (readInteger? raw).getD integerFallback ≤ 2147483647 := by
        cases h : readInteger? raw with
        | some n => exact bounds_of_readInteger? h
        | none => decide
      simp only [coerce, Argument.text, readInteger?_intText hbounds.1 hbounds.2]
      rfl
  | bool =>
      simp only [coerce, Argument.text, readBool?_boolText]
      rfl
  | guid =>
      simp only [coerce, Argument.text, readGuid?, trim_guidText, Guid.ofText?_text]
      rfl
  | dateTime => exact coerce_text_of_isValid (isValid_getD_readInstant? raw)

/-- The first day of the year ten thousand is an instant, and its text stands for the fallback. -/
theorem ValueType.coerce_text_of_year_ten_thousand :
    let value := ValueType.dateTime.coerce "+10000-01-01"
    value = .dateTime (.midnight ⟨10000, 1, 1⟩) ∧ value.text = "+10000-01-01T00:00:00+00:00" ∧
      ValueType.dateTime.coerce value.text = .dateTime (.midnight ⟨1, 1, 1⟩) ∧
      ValueType.dateTime.coerce value.text ≠ value := by
  decide +kernel

end PageMigration
