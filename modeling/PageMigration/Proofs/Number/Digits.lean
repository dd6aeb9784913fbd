import Mathlib.Algebra.Group.Nat.Defs
import PageMigration.Number.Digits

/-!
# Numbers and their digits

The digits of a number stand for the number, with any number of zeros in front of them, and as many
digits stand for as many numbers as the power of ten says.  So a number that is written with a
fixed width is read again, whatever follows it.

## Main results

* `Digits.toNat_append` : the number that digits behind other ones stand for.
* `Digits.toNat_lt` : the numbers that a number of digits can stand for.
* `Digits.read?_padded` : a number of a fixed width is read again.
-/

namespace PageMigration.Digits

/-! ### The number of digits -/

@[simp] theorem toNat_toDigits (n : Nat) : toNat (Nat.toDigits 10 n) = n :=
  Nat.ofDigitChars_ten_toDigits

theorem toNat_append (a b : List Char) : toNat (a ++ b) = 10 ^ b.length * toNat a + toNat b := by
  change Nat.ofDigitChars 10 (a ++ b) 0 = _
  rw [Nat.ofDigitChars_append, Nat.ofDigitChars_eq_ofDigitChars_zero]
  rfl

@[simp] theorem toNat_replicate_zero (k : Nat) : toNat (List.replicate k '0') = 0 :=
  Nat.ofDigitChars_replicate_zero.trans (Nat.mul_zero _)

theorem isDigit_of_mem_replicate (k : Nat) : ∀ c ∈ List.replicate k '0', c.isDigit := by
  intro c hc
  rw [List.eq_of_mem_replicate hc]
  rfl

theorem isDigit_of_mem_toDigits {n : Nat} {c : Char} (h : c ∈ Nat.toDigits 10 n) : c.isDigit :=
  Nat.isDigit_of_mem_toDigits (by decide) (by decide) h

/-! ### Runs of digits -/

theorem length_run_le (most : Nat) (s : List Char) : (run most s).1.length ≤ most := by
  induction most generalizing s with
  | zero => simp [run]
  | succ most ih =>
      cases s with
      | nil => simp [run]
      | cons c s =>
          by_cases h : c.isDigit
          · simpa [run, h] using ih s
          · simp [run, h]

theorem isDigit_of_mem_run {most : Nat} {s : List Char} {c : Char} (hc : c ∈ (run most s).1) :
    c.isDigit := by
  induction most generalizing s with
  | zero => simp [run] at hc
  | succ most ih =>
      cases s with
      | nil => simp [run] at hc
      | cons d s =>
          by_cases h : d.isDigit
          · simp only [run, h, if_true, List.mem_cons] at hc
            rcases hc with rfl | hc
            · exact h
            · exact ih hc
          · simp [run, h] at hc

/-- Digits stand for a number that is less than the power of ten with as many zeros. -/
theorem toNat_lt {digits : List Char} (h : ∀ c ∈ digits, c.isDigit) :
    toNat digits < 10 ^ digits.length := by
  induction digits with
  | nil => decide
  | cons c digits ih =>
      rw [List.forall_mem_cons] at h
      have hvalue : toNat [c] ≤ 9 := by
        have hc := h.1
        simp only [Char.isDigit, Bool.and_eq_true, decide_eq_true_eq] at hc
        have hle : c.toNat ≤ '9'.toNat := hc.2
        have hnine : '9'.toNat - '0'.toNat = 9 := by decide
        simp only [toNat, List.foldl, value]
        omega
      have hrest := ih h.2
      have hmul := Nat.mul_le_mul_left (10 ^ digits.length) hvalue
      have happend := toNat_append [c] digits
      rw [List.singleton_append] at happend
      rw [happend, List.length_cons, Nat.pow_succ]
      omega

/-! ### Numbers of a fixed width -/

theorem isDigit_of_mem_padded {width n : Nat} {c : Char} (h : c ∈ (padded width n).toList) :
    c.isDigit := by
  simp only [padded, String.toList_ofList, List.mem_append] at h
  exact h.elim (isDigit_of_mem_replicate _ c) isDigit_of_mem_toDigits

/-- Leading zeros do not matter. -/
@[simp] theorem toNat_padded (width n : Nat) : toNat (padded width n).toList = n := by
  simp [padded, toNat_append]

/-- A number that is small enough fills the width that it is written with. -/
theorem length_padded {width n : Nat} (hw : 0 < width) (h : n < 10 ^ width) :
    (padded width n).toList.length = width := by
  have hlength := (Nat.length_toDigits_le_iff (by decide) hw).mpr h
  simp [padded, Nat.sub_add_cancel hlength]

/-- A run ends where a character is no digit, or where it has as many as it may have. -/
theorem run_append_of_isDigit {digits rest : List Char} {most : Nat}
    (h : ∀ c ∈ digits, c.isDigit) (hle : digits.length ≤ most)
    (hrest : digits.length = most ∨ ∀ c ∈ rest.head?, c.isDigit = false) :
    run most (digits ++ rest) = (digits, rest) := by
  induction digits generalizing most with
  | nil =>
      cases most with
      | zero => rfl
      | succ most =>
          cases rest with
          | nil => rfl
          | cons c rest =>
              have hc := hrest.resolve_left (by simp) c rfl
              simp [run, hc]
  | cons c digits ih =>
      rw [List.forall_mem_cons] at h
      cases most with
      | zero => cases hle
      | succ most =>
          have hrun := ih h.2 (by simpa using hle) (hrest.imp_left (by simp))
          simp [run, h.1, hrun]

/-- A number of a fixed width is read again, whatever follows it. -/
theorem read?_padded {width n : Nat} (hw : 0 < width) (h : n < 10 ^ width) (rest : List Char) :
    read? width width ((padded width n).toList ++ rest) = some (n, rest) := by
  have hlength := length_padded hw h
  have hrun : run width ((padded width n).toList ++ rest) = ((padded width n).toList, rest) :=
    run_append_of_isDigit (fun _ hc => isDigit_of_mem_padded hc) (Nat.le_of_eq hlength)
      (Or.inl hlength)
  simp [read?, hrun, hlength]

end PageMigration.Digits
