import PageMigration.Json.Printer
import PageMigration.Proofs.Number.Digits
import PageMigration.Proofs.Number.Shortest

/-!
# Numbers as JSON writes them

A number has an optional sign, digits without a superfluous zero in front, and optionally decimals
and an exponent.  Integers are written as such numbers of their value, and doubles as such numbers
with decimals or an exponent, whose value rounds to the double.

## Main definitions

* `NumberToken` : the parts of a number, their text and the value they stand for.
* `NumberToken.WellFormed` : the parts are those of a number in JSON.
* `Json.StandsFor` : the numbers that stand for digits with a place.
* `Json.DoubleToken` : the numbers that a double may be written as.

## Main results

* `Json.exists_token_intText` : the text of an integer.
* `Json.exists_token_doubleText` : the text of a double.
-/

namespace PageMigration

/-- The parts of a number in decimal. -/
structure NumberToken where
  negative : Bool := false
  whole : List Char
  decimals : List Char := []
  /-- Whether the exponent is negative, and its digits. -/
  exponent : Option (Bool × List Char) := none

namespace NumberToken

/-- The text of an exponent. -/
def exponentText : Option (Bool × List Char) → List Char
  | none => []
  | some (down, digits) => 'e' :: (if down then '-' else '+') :: digits

/-- The text of the size of a number. -/
def sizeText (t : NumberToken) : List Char :=
  t.whole ++ (if t.decimals.isEmpty then [] else '.' :: t.decimals) ++ exponentText t.exponent

/-- The text of a number. -/
def text (t : NumberToken) : List Char :=
  (if t.negative then ['-'] else []) ++ t.sizeText

/-- The parts are those of a number in JSON: there are digits before the point, of which the first
one is a zero only if it is the only one, and an exponent has digits. -/
structure WellFormed (t : NumberToken) : Prop where
  whole_ne : t.whole ≠ []
  whole : ∀ c ∈ t.whole, c.isDigit
  no_leading_zero : t.whole.head? = some '0' → t.whole.length = 1
  decimals : ∀ c ∈ t.decimals, c.isDigit
  exponent : ∀ e ∈ t.exponent, e.2 ≠ [] ∧ ∀ c ∈ e.2, c.isDigit

/-- The exponent of ten that a number is written with. -/
def power : Option (Bool × List Char) → Int
  | none => 0
  | some (down, digits) => if down then -(Digits.toNat digits : Int) else Digits.toNat digits

/-- The size of a number. -/
def magnitude (t : NumberToken) : ℚ :=
  Digits.toNat (t.whole ++ t.decimals) * 10 ^ (power t.exponent - t.decimals.length)

/-- The value of a number. -/
def value (t : NumberToken) : ℚ :=
  if t.negative then -t.magnitude else t.magnitude

end NumberToken

/-- The first digit of a positive number is not zero. -/
theorem Digits.head?_toDigits_ne {n : Nat} (h : 0 < n) : (Nat.toDigits 10 n).head? ≠ some '0' := by
  induction n using Nat.strongRecOn with
  | ind n ih =>
      by_cases hlt : n < 10
      · rw [Nat.toDigits_of_lt_base hlt]
        simpa using h.ne'
      · have hle : 10 ≤ n := Nat.le_of_not_lt hlt
        have hne : Nat.toDigits 10 (n / 10) ≠ [] := Nat.toDigits_ne_nil
        rw [Nat.toDigits_of_base_le (by decide) hle, List.head?_append_of_ne_nil _ hne]
        exact ih _ (Nat.div_lt_self h (by decide)) (Nat.div_pos hle (by decide))

namespace Json

open NumberToken Digits

/-- An integer is written as a number of its value. -/
theorem exists_token_intText (n : Int) : ∃ t : NumberToken, t.WellFormed ∧
    t.decimals = [] ∧ t.exponent = none ∧ t.value = n ∧ t.text = intText n := by
  refine ⟨{ negative := decide (n < 0), whole := Nat.toDigits 10 n.natAbs }, ⟨?_, ?_, ?_, ?_, ?_⟩,
    rfl, rfl, ?_, ?_⟩
  · exact Nat.toDigits_ne_nil
  · exact fun c hc => Digits.isDigit_of_mem_toDigits hc
  · intro hzero
    rcases Nat.eq_zero_or_pos n.natAbs with h | h
    · simp [h]
    · exact absurd hzero (Digits.head?_toDigits_ne h)
  · simp
  · simp
  · have hmagnitude : (n.natAbs : ℚ) = |(n : ℚ)| := by
      rw [Nat.cast_natAbs, Int.cast_abs]
    by_cases h : n < 0
    · have hn : (n : ℚ) < 0 := by exact_mod_cast h
      simp [NumberToken.value, magnitude, power, h, hmagnitude, abs_of_neg hn]
    · have hn : (0 : ℚ) ≤ n := by exact_mod_cast Int.not_lt.mp h
      simp [NumberToken.value, magnitude, power, h, hmagnitude, abs_of_nonneg hn]
  · by_cases h : n < 0 <;> simp [text, sizeText, intText, exponentText, h]

/-- A number with decimals or an exponent stands for digits with a place. -/
structure StandsFor (digits : List Char) (place : Int) (t : NumberToken) : Prop where
  wellFormed : t.WellFormed
  fraction : t.decimals ≠ [] ∨ t.exponent.isSome
  magnitude : t.magnitude = Digits.toNat digits * 10 ^ place

section

variable {digits : List Char} (hne : digits ≠ []) (hdigits : ∀ c ∈ digits, c.isDigit)
  (hhead : digits.head? ≠ some '0')

include hne hdigits hhead in
/-- Zeros after the digits, and the point behind them. -/
theorem standsFor_whole (zeros : Nat) : StandsFor digits zeros
    { whole := digits ++ List.replicate zeros '0', decimals := ['0'] } where
  wellFormed :=
    { whole_ne := by simp [hne]
      whole := List.forall_mem_append.mpr ⟨hdigits, isDigit_of_mem_replicate zeros⟩
      no_leading_zero := fun hzero => by
        rw [List.head?_append_of_ne_nil _ hne] at hzero
        exact absurd hzero hhead
      decimals := by simp
      exponent := by simp }
  fraction := Or.inl (List.cons_ne_nil _ _)
  magnitude := by
    have hvalue : Digits.toNat (digits ++ List.replicate zeros '0' ++ ['0']) =
        Digits.toNat digits * 10 ^ (zeros + 1) := by
      rw [List.append_assoc, ← List.replicate_succ', Digits.toNat_append,
        Digits.toNat_replicate_zero, List.length_replicate, Nat.add_zero, Nat.mul_comm]
    rw [NumberToken.magnitude, hvalue, Nat.cast_mul, mul_assoc]
    simp [power, pow_succ]

include hdigits hhead in
/-- The point among the digits. -/
theorem standsFor_point {point : Nat} (hpos : 0 < point) (hlt : point < digits.length) :
    StandsFor digits (point - digits.length)
      { whole := digits.take point, decimals := digits.drop point } where
  wellFormed :=
    { whole_ne := List.ne_nil_of_length_pos (by rw [List.length_take]; omega)
      whole := fun c hc => hdigits c (List.mem_of_mem_take hc)
      no_leading_zero := fun hzero => by
        rw [List.head?_take, if_neg hpos.ne'] at hzero
        exact absurd hzero hhead
      decimals := fun c hc => hdigits c (List.mem_of_mem_drop hc)
      exponent := by simp }
  fraction := Or.inl (List.ne_nil_of_length_pos (by rw [List.length_drop]; omega))
  magnitude := by
    rw [NumberToken.magnitude, List.take_append_drop, List.length_drop]
    congr 2
    simp only [power]
    omega

include hne hdigits in
/-- The point and zeros before the digits. -/
theorem standsFor_small (zeros : Nat) : StandsFor digits (-(zeros + digits.length : Nat))
    { whole := ['0'], decimals := List.replicate zeros '0' ++ digits } where
  wellFormed :=
    { whole_ne := List.cons_ne_nil _ _
      whole := by simp
      no_leading_zero := fun _ => rfl
      decimals := List.forall_mem_append.mpr ⟨isDigit_of_mem_replicate zeros, hdigits⟩
      exponent := by simp }
  fraction := Or.inl (by simp [hne])
  magnitude := by
    have hzero : Digits.toNat (['0'] ++ List.replicate zeros '0') = 0 :=
      Digits.toNat_replicate_zero (zeros + 1)
    rw [NumberToken.magnitude, ← List.append_assoc, Digits.toNat_append, hzero, Nat.mul_zero,
      Nat.zero_add, List.length_append, List.length_replicate, power, zero_sub]

/-- One digit before the point, and an exponent. -/
theorem standsFor_exponent {d : Char} {more : List Char} (hdigits : ∀ c ∈ d :: more, c.isDigit)
    (exponent : Int) : StandsFor (d :: more) (exponent - more.length)
      { whole := [d], decimals := more
        exponent := some (decide (exponent < 0), Nat.toDigits 10 exponent.natAbs) } where
  wellFormed :=
    { whole_ne := List.cons_ne_nil _ _
      whole := by simpa using hdigits d List.mem_cons_self
      no_leading_zero := fun _ => rfl
      decimals := fun c hc => hdigits c (List.mem_cons_of_mem _ hc)
      exponent := by
        rintro _ ⟨⟩
        exact ⟨Nat.toDigits_ne_nil, fun c hc => Digits.isDigit_of_mem_toDigits hc⟩ }
  fraction := Or.inr rfl
  magnitude := by
    rw [NumberToken.magnitude, List.singleton_append]
    congr 3
    simp only [power, Digits.toNat_toDigits, decide_eq_true_eq]
    split_ifs <;> omega

include hne hdigits hhead in
/-- Digits with a place are written as a number that stands for them. -/
theorem exists_token_digitsText (place : Int) : ∃ t : NumberToken, StandsFor digits place t ∧
    t.sizeText = digitsText digits place := by
  have hlength : 0 < digits.length := List.length_pos_of_ne_nil hne
  rw [digitsText]
  dsimp only
  by_cases hwhole : 0 ≤ place ∧ (digits.length : Int) + place ≤ 16
  · obtain ⟨zeros, rfl⟩ := Int.eq_ofNat_of_zero_le hwhole.1
    rw [if_pos hwhole]
    exact ⟨_, standsFor_whole hne hdigits hhead zeros, by simp [sizeText, exponentText]⟩
  by_cases hpoint : 0 < (digits.length : Int) + place ∧ (digits.length : Int) + place ≤ 16
  · obtain ⟨point, hplace⟩ := Int.eq_ofNat_of_zero_le hpoint.1.le
    obtain rfl : place = point - digits.length := by omega
    rw [if_neg hwhole, if_pos hpoint, hplace, Int.toNat_natCast]
    have hlt : point < digits.length := by omega
    refine ⟨_, standsFor_point hdigits hhead (by omega) hlt, ?_⟩
    have hdecimals : (digits.drop point).isEmpty = false := by
      simpa using hlt
    simp [sizeText, exponentText, hdecimals]
  by_cases hsmall : -5 < (digits.length : Int) + place ∧ (digits.length : Int) + place ≤ 0
  · obtain ⟨zeros, hzeros⟩ := Int.eq_ofNat_of_zero_le (neg_nonneg.mpr hsmall.2)
    obtain rfl : place = -(zeros + digits.length : Nat) := by omega
    have hnatAbs : ((digits.length : Int) + -(zeros + digits.length : Nat)).natAbs = zeros := by
      omega
    rw [if_neg hwhole, if_neg hpoint, if_pos hsmall, hnatAbs]
    exact ⟨_, standsFor_small hne hdigits zeros, by simp [sizeText, exponentText, hne]⟩
  · rw [if_neg hwhole, if_neg hpoint, if_neg hsmall]
    obtain ⟨d, more, rfl⟩ := List.exists_cons_of_ne_nil hne
    have hstands := standsFor_exponent hdigits (((d :: more).length : Int) + place - 1)
    have hplace : ((d :: more).length : Int) + place - 1 - more.length = place := by
      rw [List.length_cons]
      omega
    rw [hplace] at hstands
    refine ⟨_, hstands, ?_⟩
    cases more with
    | nil => simp [sizeText, exponentText]
    | cons c more => simp [sizeText, exponentText]

end

/-- What the text of a double has to be: a number with decimals or an exponent, whose value is
zero or rounds to the double. -/
structure DoubleToken (x : Double) (t : NumberToken) : Prop where
  wellFormed : t.WellFormed
  fraction : t.decimals ≠ [] ∨ t.exponent.isSome
  negative : t.negative = x.negative
  zero : x.mantissa = 0 → t.magnitude = 0
  rounds : x.mantissa ≠ 0 → x.RoundsFrom t.magnitude

/-- A double is written as a number whose value rounds to it. -/
theorem exists_token_doubleText {x : Double} (h : x.IsBounded) :
    ∃ t : NumberToken, DoubleToken x t ∧ t.text = doubleText x := by
  by_cases hzero : x.mantissa = 0
  · refine ⟨{ negative := x.negative, whole := ['0'], decimals := ['0'] },
      ⟨⟨List.cons_ne_nil _ _, by simp, fun _ => rfl, by simp, by simp⟩,
        Or.inl (List.cons_ne_nil _ _), rfl, fun _ => ?_, fun hne => absurd hzero hne⟩, ?_⟩
    · simp [magnitude, show Digits.toNat ['0', '0'] = 0 from rfl]
    · simp [text, sizeText, exponentText, doubleText, hzero]
  · obtain ⟨hne, hrounds⟩ := Double.shortest_spec (Nat.pos_of_ne_zero hzero) h
    obtain ⟨t, ⟨hwell, hfraction, hmagnitude⟩, hsize⟩ :=
      exists_token_digitsText Nat.toDigits_ne_nil (fun _ => Digits.isDigit_of_mem_toDigits)
        (Digits.head?_toDigits_ne (Nat.pos_of_ne_zero hne)) x.shortest.2
    rw [Digits.toNat_toDigits] at hmagnitude
    refine ⟨{ t with negative := x.negative },
      ⟨⟨hwell.1, hwell.2, hwell.3, hwell.4, hwell.5⟩, hfraction, rfl,
        fun h => absurd h hzero, fun _ => ?_⟩, ?_⟩
    · exact hmagnitude ▸ hrounds
    · simp [text, doubleText, hzero, ← hsize, sizeText]

end Json

end PageMigration
