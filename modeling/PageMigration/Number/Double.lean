/-!
# Double-precision numbers

A finite double is a sign and a mantissa below `2 ^ 53` times a power of two.  Results that no
double holds exactly are rounded to the nearest one, and of two equally near ones to the one with
the even mantissa.

## Main definitions

* `Double` : a finite double.
* `Double.nearest?` : the double nearest to a quotient of natural numbers.
* `Double.shortest` : the fewest decimal digits that read back as a given double.
-/

namespace PageMigration

/-- A finite double: `mantissa * 2 ^ exponent`, with a sign. -/
structure Double where
  negative : Bool
  mantissa : Nat
  exponent : Int
  deriving DecidableEq, Repr

namespace Double

/-- The exponent of the smallest positive double. -/
def leastExponent : Int := -1074

/-- The greatest exponent of a double. -/
def greatestExponent : Int := 971

/-- The power of two above all mantissas. -/
def mantissaBound : Nat := Nat.pow 2 53

/-- A quotient times a power of a base, as a quotient. -/
def scale (base : Nat) (power : Int) (num den : Nat) : Nat × Nat :=
  if 0 ≤ power then (num * Nat.pow base power.toNat, den)
  else (num, den * Nat.pow base power.natAbs)

/-- A quotient rounded to a natural number, ties to even. -/
def roundQuotient (num den : Nat) : Nat :=
  let q := num / den
  let twice := 2 * (num % den)
  if den < twice ∨ (twice = den ∧ q % 2 = 1) then q + 1 else q

/-- The mantissa and the exponent of the double nearest to a quotient, unless it is too
large. -/
def nearest? (num den : Nat) : Option (Nat × Int) :=
  if num = 0 then some (0, 0)
  else
    let e := max ((num.log2 : Int) - den.log2 - 53) leastExponent
    let floorAt (e : Int) : Nat :=
      let (n, d) := scale 2 (-e) num den
      n / d
    let e := if floorAt e < mantissaBound then e else e + 1
    let (n, d) := scale 2 (-e) num den
    let m := roundQuotient n d
    let (m, e) := if m = mantissaBound then (m / 2, e + 1) else (m, e)
    if greatestExponent < e then none else some (m, e)

/-- The size of a double as a quotient. -/
def size (x : Double) : Nat × Nat :=
  scale 2 x.exponent x.mantissa 1

/-- The double nearest to a natural number. -/
def ofNat? (n : Nat) : Option Double :=
  (nearest? n 1).map fun (m, e) => ⟨false, m, e⟩

/-- The product of the sizes of two doubles. -/
def mul? (x y : Double) : Option Double :=
  let (n, d) := x.size
  let (n', d') := y.size
  (nearest? (n * n') (d * d')).map fun (m, e) => ⟨false, m, e⟩

/-- The quotient of the sizes of two doubles. -/
def div? (x y : Double) : Option Double :=
  let (n, d) := x.size
  let (n', d') := y.size
  (nearest? (n * d') (d * n')).map fun (m, e) => ⟨false, m, e⟩

/-! ### Shortest decimal digits -/

/-- How often a quotient below one has to be multiplied by ten to reach one. -/
def tensBelowOne : Nat → Nat → Nat → Nat
  | 0, _, _ => 0
  | fuel + 1, num, den => if den ≤ num then 0 else tensBelowOne fuel (10 * num) den + 1

/-- The exponent of the first decimal digit of a positive quotient. -/
def firstDigitExponent (num den : Nat) : Int :=
  if den ≤ num then ((Nat.toDigits 10 (num / den)).length : Int) - 1
  else -(tensBelowOne 400 num den : Int)

/-- The bounds of the numbers that round to a positive double, four times as large, in units of
the double's power of two, and whether the bounds themselves do. -/
def bounds (x : Double) : Nat × Nat × Bool :=
  let low :=
    if x.mantissa = mantissaBound / 2 ∧ leastExponent < x.exponent then 4 * x.mantissa - 1
    else 4 * x.mantissa - 2
  (low, 4 * x.mantissa + 2, x.mantissa % 2 == 0)

/-- The number with the last digit at a given place that is nearest to a positive double, if it
reads back as that double. -/
def digitsAt? (x : Double) (place : Int) : Option Nat :=
  let (low, high, closed) := x.bounds
  let (num, den) := scale 10 (-place) x.size.1 x.size.2
  let below := num / den
  let readsBack (c : Nat) : Bool :=
    let (cn, cd) := scale 10 place c 1
    let (bn, bd) := scale 2 (x.exponent - 2) 1 1
    let left := cn * bd
    let lowest := low * bn * cd
    let highest := high * bn * cd
    if closed then lowest ≤ left && left ≤ highest else lowest < left && left < highest
  let twice := 2 * (num % den)
  let belowFirst := twice < den || (twice == den && below % 2 == 0)
  let candidates := if belowFirst then [below, below + 1] else [below + 1, below]
  candidates.find? fun c => c != 0 && readsBack c

/-- The digits found with the last digit at the highest possible place at or below a given
one. -/
def shortestFrom (x : Double) : Nat → Int → Nat × Int
  | 0, place => (0, place)
  | fuel + 1, place =>
      match x.digitsAt? place with
      | some c => (c, place)
      | none => shortestFrom x fuel (place - 1)

/-- The fewest decimal digits that read back as a positive double, as a number and the place of
its last digit. -/
def shortest (x : Double) : Nat × Int :=
  shortestFrom x 19 (firstDigitExponent x.size.1 x.size.2 + 1)

end Double

end PageMigration
