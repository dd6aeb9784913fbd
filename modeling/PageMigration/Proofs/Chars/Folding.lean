import PageMigration.Chars.Case
import PageMigration.Chars.Fold

/-!
# Letters that are folded into ASCII

Simple case folding sends two characters outside of ASCII into it: the long s, and the sign of the
Kelvin.  So what is the same letter as a character of ASCII is in ASCII as well, or one of the two.

## Main definitions

* `Chars.marks`, `Chars.isMark` : the marks of tags and attributes.

## Main results

* `Chars.fold_of_not_lt` : the characters that are folded into ASCII.
* `Chars.sameLetter_cases` : the characters that are the same letter as one of ASCII.
* `Chars.eq_of_sameLetter`, `Chars.of_sameLetter_of_isLower` : marks and small letters.
-/

namespace PageMigration.Chars

theorem forall_foldShifts : ∀ s ∈ foldShifts, s.last < 128 ∨ 128 ≤ (s.first : Int) + s.distance ∨
    s.first = s.last ∧ (s.last = 0x17F ∨ s.last = 0x212A) := by
  decide +kernel

/-- Folding sends no character into ASCII from outside but the long s and the sign of the Kelvin. -/
theorem fold_of_not_lt {c : Char} (h : ¬ c.toNat < 128) :
    ¬ (fold c).toNat < 128 ∨ fold c = '\x00' ∨ c = '\u017F' ∨ c = '\u212A' := by
  rw [fold, if_neg h, shiftBy]
  cases hfound : foldShifts.find? (Shift.moves · c.toNat) with
  | none => exact .inl h
  | some s =>
      have hmoves := List.find?_some hfound
      simp only [Shift.moves, Bool.and_eq_true, decide_eq_true_eq] at hmoves
      rcases forall_foldShifts s (List.mem_of_find?_eq_some hfound) with hlast | hfar | ⟨heq, hc⟩
      · omega
      · dsimp only
        by_cases hvalid : ((c.toNat : Int) + s.distance).toNat.isValidChar
        · left
          have hcode : (Char.ofNat ((c.toNat : Int) + s.distance).toNat).toNat =
              ((c.toNat : Int) + s.distance).toNat := by
            rw [Char.ofNat, dif_pos hvalid]
            rfl
          omega
        · right
          left
          rw [Char.ofNat, dif_neg hvalid]
          rfl
      · have hcode : c.toNat = s.last := by omega
        rcases hc with hc | hc
        · exact .inr (.inr (.inl (Char.toNat_inj.mp (hcode.trans hc))))
        · exact .inr (.inr (.inr (Char.toNat_inj.mp (hcode.trans hc))))

/-- What is the same letter as a character of ASCII is in ASCII, or one of two other characters. -/
theorem sameLetter_cases {a c : Char} (ha : (fold a).toNat < 128) (hzero : fold a ≠ '\x00')
    (h : sameLetter a c) : c.toNat < 128 ∨ c = '\u017F' ∨ c = '\u212A' := by
  rw [sameLetter, beq_iff_eq] at h
  by_cases hc : c.toNat < 128
  · exact .inl hc
  · rcases fold_of_not_lt hc with hfar | hnone | hother
    · exact absurd (h ▸ ha) hfar
    · exact absurd (h.trans hnone) hzero
    · exact .inr hother

/-- The characters that tags and their attributes are made up with. -/
def marks : List Char :=
  ['<', '>', '/', '=', '"', '\'']

/-- Whether a character is one of the marks. -/
def isMark (c : Char) : Bool :=
  marks.contains c

theorem fold_of_isMark {c : Char} (hc : c.toNat < 128) (h : isMark (fold c)) : fold c = c := by
  have hascii : ∀ n < 128, isMark (fold (Char.ofNat n)) →
      fold (Char.ofNat n) == Char.ofNat n := by decide +kernel
  exact beq_iff_eq.mp (forall_ascii (p := fun c => isMark (fold c) → fold c == c) hascii hc h)

/-- A mark is the same letter as itself only. -/
theorem eq_of_sameLetter {a c : Char} (ha : isMark a) (h : sameLetter a c) : c = a := by
  have hmarks : marks.all fun a => fold a = a ∧ (fold a).toNat < 128 ∧ fold a ≠ '\x00' := by decide
  have hself := of_decide_eq_true (List.all_eq_true.mp hmarks a (List.contains_iff_mem.mp ha))
  have hfold : fold a = fold c := beq_iff_eq.mp h
  have hmark : isMark (fold c) := by rwa [← hfold, hself.1]
  rcases sameLetter_cases hself.2.1 hself.2.2 h with hc | rfl | rfl
  · rw [← fold_of_isMark hc hmark, ← hfold, hself.1]
  · exact absurd hmark (by decide +kernel)
  · exact absurd hmark (by decide +kernel)

/-- What is the same letter as a small letter of ASCII is no mark and no blank. -/
theorem of_sameLetter_of_isLower {a c : Char} (ha : a.isLower) (h : sameLetter a c) :
    isBlank c = false ∧ isMark c = false := by
  have hletters : ∀ n < 128, (Char.ofNat n).isLower →
      (fold (Char.ofNat n)).isLower ∧ (fold (Char.ofNat n)).toNat < 128 ∧
        fold (Char.ofNat n) ≠ '\x00' := by decide +kernel
  have hascii : ∀ n < 128, (fold (Char.ofNat n)).isLower →
      isBlank (Char.ofNat n) = false ∧ isMark (Char.ofNat n) = false := by decide +kernel
  have hlow : a.toNat < 128 := by
    have hle := of_decide_eq_true (Bool.and_eq_true_iff.mp ha).2
    exact Nat.lt_of_le_of_lt (UInt32.le_iff_toNat_le.mp hle) (by decide)
  obtain ⟨hlower, hfold, hzero⟩ := forall_ascii (p := fun a => a.isLower →
    (fold a).isLower ∧ (fold a).toNat < 128 ∧ fold a ≠ '\x00') hletters hlow ha
  rcases sameLetter_cases hfold hzero h with hc | rfl | rfl
  · rw [beq_iff_eq.mp h] at hlower
    exact forall_ascii (p := fun c => (fold c).isLower → isBlank c = false ∧ isMark c = false)
      hascii hc hlower
  · decide +kernel
  · decide +kernel

end PageMigration.Chars
