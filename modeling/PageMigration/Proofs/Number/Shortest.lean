import Mathlib.Algebra.Order.Field.Power
import Mathlib.Algebra.Order.Floor.Semifield
import Mathlib.Data.Nat.Cast.Order.Field
import Mathlib.Data.Rat.Floor
import Mathlib.Tactic.FieldSimp
import Mathlib.Tactic.Linarith
import Mathlib.Tactic.Positivity
import Mathlib.Tactic.Ring
import PageMigration.Number.Double

/-!
# Shortest decimal digits

The digits that a positive double is written with are found, are not zero, and stand for a number
that rounds to the double.  Eighteen digits are always enough: their last place is finer than the
distance to the next double, so the digits of the double itself, cut off there, round back to it.

## Main definitions

* `Double.magnitude` : the size of a double as a rational number.
* `Double.IsBounded` : the mantissa and the exponent are those of a double of sixty-four bits.
* `Double.RoundsFrom` : a number that is nearest to a double.

## Main results

* `Double.isBounded_of_nearest?` : rounding gives such a mantissa and exponent.
* `Double.shortest_spec` : the shortest digits are those of a number that rounds to the double.
-/

namespace PageMigration.Double

/-! ### Quotients -/

theorem scale_pos {base num den : Nat} (hbase : 0 < base) (hden : 0 < den) (power : Int) :
    0 < (scale base power num den).2 := by
  rw [scale]
  split_ifs
  · exact hden
  · exact Nat.mul_pos hden (Nat.pow_pos hbase)

/-- The quotient of a scaled pair. -/
theorem scale_div {base : Nat} (hbase : 0 < base) (power : Int) (num den : Nat) :
    ((scale base power num den).1 : ℚ) / (scale base power num den).2 =
      (num : ℚ) / den * (base : ℚ) ^ power := by
  have hne : (base : ℚ) ≠ 0 := by exact_mod_cast hbase.ne'
  rw [scale]
  split_ifs with h
  · obtain ⟨n, rfl⟩ := Int.eq_ofNat_of_zero_le h
    simp [mul_div_right_comm]
  · obtain ⟨n, rfl⟩ : ∃ n : Nat, power = -(n : Int) := ⟨power.natAbs, by omega⟩
    simp [div_eq_mul_inv, mul_comm, mul_left_comm]

/-- The whole part of a scaled quotient stays below what is above the quotient. -/
theorem scale_div_lt {base bound num den : Nat} (hbase : 0 < base) (hbound : 0 < bound)
    {power : Int} (h : (num : ℚ) / den * (base : ℚ) ^ power < bound) :
    (scale base power num den).1 / (scale base power num den).2 < bound := by
  rcases Nat.eq_zero_or_pos den with rfl | hden
  · have hzero : (scale base power num 0).2 = 0 := by
      rw [scale]
      split_ifs <;> simp
    rw [hzero, Nat.div_zero]
    exact hbound
  · have hpos : 0 < (scale base power num den).2 := scale_pos hbase hden power
    rw [← scale_div hbase, div_lt_iff₀ (by exact_mod_cast hpos)] at h
    exact Nat.div_lt_of_lt_mul (by rw [Nat.mul_comm]; exact_mod_cast h)

/-! ### Bounded doubles -/

/-- The mantissa and the exponent are those of a double of sixty-four bits. -/
structure IsBounded (x : Double) : Prop where
  mantissa_lt : x.mantissa < mantissaBound
  le_exponent : leastExponent ≤ x.exponent

theorem roundQuotient_le (num den : Nat) : roundQuotient num den ≤ num / den + 1 := by
  rw [roundQuotient]
  split_ifs
  · exact Nat.le_refl _
  · exact Nat.le_succ _

/-- A quotient is less than the power of two of the lengths of its parts. -/
theorem div_lt_zpow (num : Nat) {den : Nat} (hden : den ≠ 0) :
    (num : ℚ) / den < 2 ^ ((num.log2 : Int) - den.log2 + 1) := by
  have hnum : (num : ℚ) < 2 ^ ((num.log2 : Int) + 1) := by
    exact_mod_cast Nat.lt_log2_self
  have hpow : (2 : ℚ) ^ (den.log2 : Int) ≤ den := by
    exact_mod_cast Nat.log2_self_le hden
  have hpos : (0 : ℚ) < 2 ^ (den.log2 : Int) := by positivity
  calc (num : ℚ) / den ≤ num / 2 ^ (den.log2 : Int) := by gcongr
    _ < 2 ^ ((num.log2 : Int) + 1) / 2 ^ (den.log2 : Int) := by gcongr
    _ = 2 ^ ((num.log2 : Int) - den.log2 + 1) := by
      rw [← zpow_sub₀ two_ne_zero]
      congr 1
      omega

/-- The whole part of a quotient in units of a power of two. -/
theorem scale_two_div_lt {num den n : Nat} {e : Int}
    (h : (num.log2 : Int) - den.log2 + 1 - e ≤ n) :
    (scale 2 (-e) num den).1 / (scale 2 (-e) num den).2 < 2 ^ n := by
  refine scale_div_lt two_pos (by positivity) ?_
  rcases eq_or_ne den 0 with rfl | hden
  · simp
  calc (num : ℚ) / den * ((2 : Nat) : ℚ) ^ (-e)
      < 2 ^ ((num.log2 : Int) - den.log2 + 1) * ((2 : Nat) : ℚ) ^ (-e) := by
        have := div_lt_zpow num hden
        gcongr
    _ = 2 ^ ((num.log2 : Int) - den.log2 + 1 - e) := by
      rw [Nat.cast_ofNat, ← zpow_add₀ two_ne_zero, sub_eq_add_neg _ e]
    _ ≤ 2 ^ (n : Int) := zpow_le_zpow_right₀ one_le_two h
    _ = ((2 ^ n : Nat) : ℚ) := by push_cast; rw [zpow_natCast]

/-- Rounding gives a mantissa and an exponent of a double of sixty-four bits. -/
theorem isBounded_of_nearest? {num den m : Nat} {e : Int} (h : nearest? num den = some (m, e))
    (negative : Bool) : IsBounded ⟨negative, m, e⟩ := by
  by_cases hnum : num = 0
  · rw [nearest?, if_pos hnum] at h
    cases h
    exact ⟨Nat.pow_pos two_pos, show leastExponent ≤ 0 by decide⟩
  rw [nearest?, if_neg hnum] at h
  -- The unit is a power of two in which the whole part is a mantissa.
  obtain ⟨unit, hunit, hleast, hfloor⟩ : ∃ unit : Int,
      (let e := max ((num.log2 : Int) - den.log2 - 53) leastExponent
       if (scale 2 (-e) num den).1 / (scale 2 (-e) num den).2 < mantissaBound then e else e + 1) =
        unit ∧ leastExponent ≤ unit ∧
      (scale 2 (-unit) num den).1 / (scale 2 (-unit) num den).2 < mantissaBound := by
    refine ⟨_, rfl, ?_⟩
    dsimp only
    split_ifs with hsmall
    · exact ⟨le_max_right _ _, hsmall⟩
    · have hleast := le_max_right ((num.log2 : Int) - den.log2 - 53) leastExponent
      refine ⟨by omega, scale_two_div_lt ?_⟩
      have := le_max_left ((num.log2 : Int) - den.log2 - 53) leastExponent
      omega
  simp only at h hunit
  rw [hunit] at h
  have hround := roundQuotient_le (scale 2 (-unit) num den).1 (scale 2 (-unit) num den).2
  have hbound : 0 < mantissaBound := Nat.pow_pos two_pos
  split_ifs at h with hcarry htop htop
  · obtain ⟨rfl, rfl⟩ := Prod.mk.inj (Option.some.inj h)
    exact ⟨by rw [hcarry]; exact Nat.div_lt_self hbound one_lt_two, by dsimp only; omega⟩
  · obtain ⟨rfl, rfl⟩ := Prod.mk.inj (Option.some.inj h)
    exact ⟨by dsimp only; omega, hleast⟩

/-! ### Numbers that round to a double -/

/-- The size of a double. -/
def magnitude (x : Double) : ℚ :=
  x.mantissa * 2 ^ x.exponent

/-- A number that is nearest to a positive double, or the even one of two nearest. -/
def RoundsFrom (x : Double) (q : ℚ) : Prop :=
  let unit : ℚ := 2 ^ (x.exponent - 2)
  if x.bounds.2.2 then x.bounds.1 * unit ≤ q ∧ q ≤ x.bounds.2.1 * unit
  else x.bounds.1 * unit < q ∧ q < x.bounds.2.1 * unit

theorem size_div (x : Double) : (x.size.1 : ℚ) / x.size.2 = x.magnitude := by
  rw [size, scale_div two_pos, magnitude]
  simp

theorem size_pos (x : Double) : 0 < x.size.2 :=
  scale_pos two_pos one_pos _

section

variable {bound c d b e : Nat}

/-- A multiple of one quotient is compared with another quotient by products. -/
theorem mul_quotient_le_iff (hd : 0 < d) (he : 0 < e) :
    (bound : ℚ) * (b / e) ≤ c / d ↔ bound * b * d ≤ c * e := by
  rw [mul_div_assoc', div_le_div_iff₀ (by exact_mod_cast he) (by exact_mod_cast hd)]
  exact_mod_cast Iff.rfl

theorem quotient_le_mul_iff (hd : 0 < d) (he : 0 < e) :
    (c : ℚ) / d ≤ bound * (b / e) ↔ c * e ≤ bound * b * d := by
  rw [mul_div_assoc', div_le_div_iff₀ (by exact_mod_cast hd) (by exact_mod_cast he)]
  exact_mod_cast Iff.rfl

end

/-- Whether a number with its last digit at a place lies within the bounds of a double. -/
def readsBack (x : Double) (place : Int) (c : Nat) : Bool :=
  let (low, high, closed) := x.bounds
  let (cn, cd) := scale 10 place c 1
  let (bn, bd) := scale 2 (x.exponent - 2) 1 1
  let left := cn * bd
  let lowest := low * bn * cd
  let highest := high * bn * cd
  if closed then lowest ≤ left && left ≤ highest else lowest < left && left < highest

theorem readsBack_iff (x : Double) (place : Int) (c : Nat) :
    x.readsBack place c ↔ x.RoundsFrom (c * 10 ^ place) := by
  have hc : ((scale 10 place c 1).1 : ℚ) / (scale 10 place c 1).2 = c * 10 ^ place := by
    rw [scale_div (by decide)]
    simp
  have hb : ((scale 2 (x.exponent - 2) 1 1).1 : ℚ) / (scale 2 (x.exponent - 2) 1 1).2 =
      2 ^ (x.exponent - 2) := by
    rw [scale_div two_pos]
    simp
  have hd : 0 < (scale 10 place c 1).2 := scale_pos (by decide) one_pos place
  have he : 0 < (scale 2 (x.exponent - 2) 1 1).2 := scale_pos two_pos one_pos _
  simp only [readsBack, RoundsFrom, ← hc, ← hb]
  split_ifs
  · simp only [Bool.and_eq_true, decide_eq_true_eq, mul_quotient_le_iff hd he,
      quotient_le_mul_iff hd he]
  · simp only [Bool.and_eq_true, decide_eq_true_eq, ← not_le, mul_quotient_le_iff hd he,
      quotient_le_mul_iff hd he]

/-! ### Digits at a place -/

/-- The number of a double in units of a decimal place, cut off. -/
def below (x : Double) (place : Int) : Nat :=
  (scale 10 (-place) x.size.1 x.size.2).1 / (scale 10 (-place) x.size.1 x.size.2).2

theorem digitsAt?_eq_find? (x : Double) (place : Int) : ∃ candidates : List Nat,
    x.below place ∈ candidates ∧
      x.digitsAt? place = candidates.find? fun c => c != 0 && x.readsBack place c := by
  let scaled := scale 10 (-place) x.size.1 x.size.2
  let twice := 2 * (scaled.1 % scaled.2)
  refine ⟨if twice < scaled.2 || (twice == scaled.2 && x.below place % 2 == 0) then
    [x.below place, x.below place + 1] else [x.below place + 1, x.below place], ?_, rfl⟩
  split_ifs <;> simp

/-- Digits that are found are not zero and stand for a number that rounds to the double. -/
theorem of_digitsAt?_eq_some {x : Double} {place : Int} {c : Nat} (h : x.digitsAt? place = some c) :
    c ≠ 0 ∧ x.RoundsFrom (c * 10 ^ place) := by
  obtain ⟨candidates, -, heq⟩ := x.digitsAt?_eq_find? place
  have hc := List.find?_some (heq ▸ h)
  rw [Bool.and_eq_true, bne_iff_ne, readsBack_iff] at hc
  exact hc

/-- The digits of the double itself, cut off, are found if they read back. -/
theorem digitsAt?_isSome {x : Double} {place : Int} (hzero : x.below place ≠ 0)
    (hrounds : x.RoundsFrom (x.below place * 10 ^ place)) : (x.digitsAt? place).isSome := by
  obtain ⟨candidates, hmem, heq⟩ := x.digitsAt?_eq_find? place
  rw [heq, List.find?_isSome]
  refine ⟨_, hmem, ?_⟩
  rw [Bool.and_eq_true, bne_iff_ne, readsBack_iff]
  exact ⟨hzero, hrounds⟩

/-! ### Enough digits -/

theorem below_le (x : Double) (place : Int) : (x.below place : ℚ) * 10 ^ place ≤ x.magnitude := by
  have hpos : (0 : ℚ) < 10 ^ place := by positivity
  have hdiv := scale_div (by decide : 0 < 10) (-place) x.size.1 x.size.2
  rw [size_div, zpow_neg, ← div_eq_mul_inv] at hdiv
  rw [← le_div_iff₀ hpos, Nat.cast_ofNat.symm, ← hdiv, below]
  exact Nat.cast_div_le

theorem lt_below (x : Double) (place : Int) :
    x.magnitude < (x.below place + 1) * 10 ^ place := by
  have hpos : (0 : ℚ) < 10 ^ place := by positivity
  have hdiv := scale_div (by decide : 0 < 10) (-place) x.size.1 x.size.2
  rw [size_div, zpow_neg, ← div_eq_mul_inv] at hdiv
  rw [← div_lt_iff₀ hpos, Nat.cast_ofNat.symm, ← hdiv, below, ← Nat.floor_div_eq_div (K := ℚ) _ _]
  exact Nat.lt_floor_add_one _

/-- The digits of a double cut off at a fine place round to the double. -/
theorem roundsFrom_below {x : Double} {place : Int} (hpos : 0 < x.mantissa)
    (hfine : (10 : ℚ) ^ place < 2 ^ (x.exponent - 2)) :
    x.RoundsFrom (x.below place * 10 ^ place) := by
  have hle := x.below_le place
  have hlt := x.lt_below place
  have hunit : (0 : ℚ) < 2 ^ (x.exponent - 2) := by positivity
  have hmagnitude : x.magnitude = 4 * x.mantissa * 2 ^ (x.exponent - 2) := by
    rw [magnitude, zpow_sub₀ two_ne_zero]
    ring
  have hlow : (x.bounds.1 : ℚ) ≤ 4 * x.mantissa - 1 := by
    have : x.bounds.1 + 1 ≤ 4 * x.mantissa := by
      rw [bounds]
      dsimp only
      split_ifs <;> omega
    have : (x.bounds.1 : ℚ) + 1 ≤ 4 * x.mantissa := by exact_mod_cast this
    linarith
  have hhigh : (x.bounds.2.1 : ℚ) = 4 * x.mantissa + 2 := by
    simp [bounds]
  have habove : (x.bounds.1 : ℚ) * 2 ^ (x.exponent - 2) < x.below place * 10 ^ place := by
    calc (x.bounds.1 : ℚ) * 2 ^ (x.exponent - 2)
        ≤ (4 * x.mantissa - 1) * 2 ^ (x.exponent - 2) := by gcongr
      _ = x.magnitude - 2 ^ (x.exponent - 2) := by rw [hmagnitude]; ring
      _ < x.magnitude - 10 ^ place := by linarith
      _ < x.below place * 10 ^ place := by linarith
  have hbelow : (x.below place : ℚ) * 10 ^ place < x.bounds.2.1 * 2 ^ (x.exponent - 2) := by
    calc (x.below place : ℚ) * 10 ^ place ≤ 4 * x.mantissa * 2 ^ (x.exponent - 2) :=
          hmagnitude ▸ hle
      _ < x.bounds.2.1 * 2 ^ (x.exponent - 2) := by rw [hhigh]; gcongr; linarith
  rw [RoundsFrom]
  split_ifs
  · exact ⟨habove.le, hbelow.le⟩
  · exact ⟨habove, hbelow⟩

theorem le_tensBelowOne {fuel num den : Nat} (h : den ≤ 10 ^ fuel * num) :
    den ≤ 10 ^ tensBelowOne fuel num den * num := by
  induction fuel generalizing num with
  | zero => exact h
  | succ fuel ih =>
      rw [tensBelowOne]
      split_ifs with hle
      · simpa using hle
      · have := @ih (10 * num) (by rwa [← Nat.mul_assoc, ← Nat.pow_succ])
        rwa [← Nat.mul_assoc, ← Nat.pow_succ] at this

/-- A positive number has the digits that the length of its decimal form says. -/
theorem pow_length_toDigits_le {n : Nat} (h : 0 < n) :
    10 ^ ((Nat.toDigits 10 n).length - 1) ≤ n := by
  by_cases hlength : (Nat.toDigits 10 n).length - 1 = 0
  · rwa [hlength, Nat.pow_zero]
  · have hiff :=
      Nat.length_toDigits_le_iff (n := n) (by decide : 1 < 10) (Nat.pos_of_ne_zero hlength)
    by_contra hlt
    have := hiff.mpr (Nat.lt_of_not_le hlt)
    omega

theorem firstDigit_le {x : Double} (hpos : 0 < x.mantissa) (hbounded : x.IsBounded) :
    (10 : ℚ) ^ firstDigitExponent x.size.1 x.size.2 ≤ x.magnitude := by
  have hsize := x.size_pos
  have hden : (0 : ℚ) < x.size.2 := by exact_mod_cast hsize
  rw [← size_div, le_div_iff₀ hden, firstDigitExponent]
  split_ifs with hle
  · have hlength : 0 < (Nat.toDigits 10 (x.size.1 / x.size.2)).length := Nat.length_toDigits_pos
    have hpow := pow_length_toDigits_le (Nat.div_pos hle hsize)
    rw [← Nat.cast_pred hlength, zpow_natCast]
    exact_mod_cast (Nat.le_div_iff_mul_le hsize).mp hpow
  · have hnum : 0 < x.size.1 := by
      rw [size, scale]
      split_ifs
      · exact Nat.mul_pos hpos (Nat.pow_pos two_pos)
      · exact hpos
    have hdenominator (n : Nat) (hn : 1074 ≤ n) : x.size.2 ≤ 2 ^ n := by
      have hleast : -1074 ≤ x.exponent := hbounded.le_exponent
      rw [size, scale]
      split_ifs with hexponent
      · exact Nat.one_le_two_pow
      · have hle : x.exponent.natAbs ≤ n := by omega
        rw [Nat.one_mul, Nat.pow_eq]
        exact Nat.pow_le_pow_right two_pos hle
    have hpow (n : Nat) : 2 ^ (3 * n) ≤ 10 ^ n := by
      rw [Nat.pow_mul]
      exact Nat.pow_le_pow_left (by decide) n
    have htens : x.size.2 ≤ 10 ^ 400 * x.size.1 :=
      calc x.size.2 ≤ 2 ^ (3 * 400) := hdenominator _ (by decide)
        _ ≤ 10 ^ 400 := hpow 400
        _ ≤ 10 ^ 400 * x.size.1 := Nat.le_mul_of_pos_right _ hnum
    have := le_tensBelowOne htens
    rw [zpow_neg, zpow_natCast, inv_mul_le_iff₀ (by positivity)]
    exact_mod_cast this

theorem shortestFrom_spec {x : Double} {fuel : Nat} {place : Int}
    (h : ∃ k < fuel, (x.digitsAt? (place - k)).isSome) :
    (x.shortestFrom fuel place).1 ≠ 0 ∧
      x.RoundsFrom ((x.shortestFrom fuel place).1 * 10 ^ (x.shortestFrom fuel place).2) := by
  induction fuel generalizing place with
  | zero =>
      obtain ⟨k, hk, -⟩ := h
      exact absurd hk (Nat.not_lt_zero k)
  | succ fuel ih =>
      rw [shortestFrom]
      cases hdigits : x.digitsAt? place with
      | some c => exact of_digitsAt?_eq_some hdigits
      | none =>
          obtain ⟨k, hk, hsome⟩ := h
          cases k with
          | zero => simp [hdigits] at hsome
          | succ k =>
              refine ih ⟨k, Nat.lt_of_succ_lt_succ hk, ?_⟩
              rwa [show place - 1 - (k : Int) = place - (k + 1 : Nat) by omega]

/-- **Shortest digits.** The shortest digits of a positive double are not zero, and stand for a
number that rounds to the double. -/
theorem shortest_spec {x : Double} (hpos : 0 < x.mantissa) (hbounded : x.IsBounded) :
    x.shortest.1 ≠ 0 ∧ x.RoundsFrom (x.shortest.1 * 10 ^ x.shortest.2) := by
  have hfirst := firstDigit_le hpos hbounded
  rw [shortest]
  generalize firstDigitExponent x.size.1 x.size.2 = first at hfirst
  refine shortestFrom_spec ⟨18, by decide, ?_⟩
  rw [show first + 1 - ((18 : Nat) : Int) = first - 17 by omega]
  have hmantissa : (x.mantissa : ℚ) < 2 ^ 53 := by exact_mod_cast hbounded.mantissa_lt
  have hunit : (0 : ℚ) < 2 ^ x.exponent := by positivity
  have hfine : (10 : ℚ) ^ (first - 17) < 2 ^ (x.exponent - 2) :=
    calc (10 : ℚ) ^ (first - 17) = 10 ^ first / 10 ^ 17 := by
          rw [zpow_sub₀ (by norm_num), zpow_ofNat]
      _ ≤ x.mantissa * 2 ^ x.exponent / 10 ^ 17 :=
        (div_le_div_iff_of_pos_right (by positivity)).mpr hfirst
      _ < 2 ^ 53 * 2 ^ x.exponent / 10 ^ 17 := by gcongr
      _ ≤ 2 ^ x.exponent / 2 ^ 2 := by
        rw [div_le_div_iff₀ (by positivity) (by positivity), mul_right_comm, mul_comm]
        gcongr
        norm_num
      _ = 2 ^ (x.exponent - 2) := by rw [zpow_sub₀ two_ne_zero, zpow_ofNat]
  refine digitsAt?_isSome ?_ (roundsFrom_below hpos hfine)
  intro hzero
  have hlt := x.lt_below (first - 17)
  rw [hzero, Nat.cast_zero, zero_add, one_mul] at hlt
  have : (10 : ℚ) ^ (first - 17) ≤ 10 ^ first := zpow_le_zpow_right₀ (by norm_num) (by omega)
  linarith

end PageMigration.Double
