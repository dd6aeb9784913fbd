import PageMigration.Chars.Blank

/-!
# Letter case within ASCII

Names of properties, variants and types are compared without regard to the case of ASCII
letters; every other character has to agree exactly.

## Main definitions

* `Chars.lower` : a text with its ASCII capitals made small.
* `Chars.sameName` : equality of two texts up to the case of ASCII letters.

## Main results

* `Chars.forall_ascii` : what holds of ASCII may be checked one by one.
* `Chars.sameName_iff` : two texts are the same name iff their small forms are equal.
-/

namespace PageMigration.Chars

/-- A text with its ASCII capitals made small. -/
def lower (s : List Char) : List Char :=
  s.map Char.toLower

/-- Equality of two texts up to the case of ASCII letters. -/
def sameName (a b : List Char) : Bool :=
  lower a == lower b

/-- What holds of the characters below 128 one by one holds of ASCII. -/
theorem forall_ascii {p : Char → Prop} (h : ∀ n < 128, p (Char.ofNat n)) {c : Char}
    (hc : c.toNat < 128) : p c := by
  have hp := h c.toNat hc
  rwa [Char.ofNat_toNat] at hp

theorem ascii_of_isAlphanum {c : Char} (h : c.isAlphanum) : c.toNat < 128 := by
  have hclass : ((c.isUpper || c.isLower) || c.isDigit) = true := h
  simp only [Bool.or_eq_true] at hclass
  rcases hclass with (hupper | hlower) | hdigit
  · exact Nat.lt_of_le_of_lt (UInt32.le_iff_toNat_le.mp (of_decide_eq_true hupper).2) (by decide)
  · have hle := of_decide_eq_true (Bool.and_eq_true_iff.mp hlower).2
    exact Nat.lt_of_le_of_lt (UInt32.le_iff_toNat_le.mp hle) (by decide)
  · have hle := of_decide_eq_true (Bool.and_eq_true_iff.mp hdigit).2
    exact Nat.lt_of_le_of_lt (UInt32.le_iff_toNat_le.mp hle) (by decide)

/-- Letters and digits are not blank. -/
theorem isBlank_of_isAlphanum {c : Char} (h : c.isAlphanum) : isBlank c = false := by
  have hascii := ascii_of_isAlphanum h
  exact forall_ascii (p := fun c => c.isAlphanum → isBlank c = false) (by decide) hascii h

/-- Characters outside of ASCII are their own small form. -/
theorem toLower_of_not_ascii {c : Char} (h : ¬ c.toNat < 128) : c.toLower = c :=
  dif_neg fun hupper =>
    h (Nat.lt_of_le_of_lt (UInt32.le_iff_toNat_le.mp hupper.2) (by decide))

theorem toLower_toLower (c : Char) : c.toLower.toLower = c.toLower := by
  by_cases h : c.toNat < 128
  · exact forall_ascii (p := fun c => c.toLower.toLower = c.toLower) (by decide) h
  · rw [toLower_of_not_ascii h, toLower_of_not_ascii h]

/-- Only a small letter is the small form of another character. -/
theorem eq_of_toLower {c d : Char} (h : c.toLower = d) (hd : d.isLower = false) : c = d := by
  by_cases hc : c.toNat < 128
  · have hfixed : c.toLower.isLower = false → c = c.toLower :=
      forall_ascii (p := fun c => c.toLower.isLower = false → c = c.toLower) (by decide) hc
    exact h ▸ hfixed (h ▸ hd)
  · rwa [toLower_of_not_ascii hc] at h

/-- A slash is no letter in another case. -/
theorem eq_slash_of_toLower {c : Char} (h : c.toLower = '/') : c = '/' :=
  eq_of_toLower h rfl

/-- A text without small letters is the small form of no other text. -/
theorem eq_of_lower {a b : List Char} (h : lower a = b) (hb : ∀ c ∈ b, c.isLower = false) :
    a = b := by
  subst h
  induction a with
  | nil => rfl
  | cons c a ih =>
      rw [lower, List.map_cons, ← lower, List.forall_mem_cons] at hb
      rw [lower, List.map_cons, ← lower, ← ih hb.2, ← eq_of_toLower rfl hb.1]

@[simp] theorem lower_lower (s : List Char) : lower (lower s) = lower s := by
  rw [lower, lower, List.map_map]
  exact List.map_congr_left fun c _ => toLower_toLower c

theorem sameName_iff {a b : List Char} : sameName a b = true ↔ lower a = lower b := by
  simp [sameName]

@[simp] theorem sameName_self (a : List Char) : sameName a a = true := by
  simp [sameName]

theorem sameName_comm (a b : List Char) : sameName a b = sameName b a := by
  rw [Bool.eq_iff_iff, sameName_iff, sameName_iff, eq_comm]

theorem sameName_trans {a b c : List Char} (h : sameName a b) (k : sameName b c) :
    sameName a c := by
  rw [sameName_iff] at *
  exact h.trans k

@[simp] theorem lower_append (a b : List Char) : lower (a ++ b) = lower a ++ lower b :=
  List.map_append

/-- The length of a text is the same in either case. -/
@[simp] theorem length_lower (s : List Char) : (lower s).length = s.length := by
  simp [lower]

end PageMigration.Chars
