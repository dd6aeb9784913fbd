/-!
# Digits

The values of digits, reading an unsigned decimal number from the start of a text, within a least
and a greatest number of digits, and writing one with leading zeros.

## Main definitions

* `Digits.valueIn?`, `Digits.ofBase` : the values of digits in a base of at most sixteen.
* `Digits.read?` : the number at the start of a text and what follows it.
* `Digits.padded` : a number written with at least a given number of digits.

## Main results

* `Digits.toDigits_inj` : different numbers have different decimal digits.
-/

namespace PageMigration.Digits

/-- The value of a decimal digit. -/
def value (c : Char) : Nat :=
  c.toNat - '0'.toNat

/-- The value of a digit in a base of at most sixteen, if it is one. -/
def valueIn? (base : Nat) (c : Char) : Option Nat :=
  let value : Option Nat :=
    if c.isDigit then some (c.toNat - '0'.toNat)
    else if 'a' ≤ c ∧ c ≤ 'f' then some (c.toNat - 'a'.toNat + 10)
    else if 'A' ≤ c ∧ c ≤ 'F' then some (c.toNat - 'A'.toNat + 10)
    else none
  value.filter (· < base)

/-- Whether a character is a digit in a base of at most sixteen. -/
def isDigitIn (base : Nat) (c : Char) : Bool :=
  (valueIn? base c).isSome

/-- The number that digits of a base stand for. -/
def ofBase (base : Nat) (digits : List Char) : Nat :=
  digits.foldl (fun n c => base * n + (valueIn? base c).getD 0) 0

/-- The number that a list of decimal digits stands for. -/
def toNat (digits : List Char) : Nat :=
  digits.foldl (fun n c => 10 * n + value c) 0

/-- The longest run of at most `most` digits at the start of a text, and what follows it. -/
def run : Nat → List Char → List Char × List Char
  | 0, s => ([], s)
  | _, [] => ([], [])
  | most + 1, c :: s =>
      if c.isDigit then
        let (digits, rest) := run most s
        (c :: digits, rest)
      else ([], c :: s)

/-- The number at the start of a text, of at least `least` and at most `most` digits, and
what follows it. -/
def read? (least most : Nat) (s : List Char) : Option (Nat × List Char) :=
  let (digits, rest) := run most s
  if digits.length < least then none else some (toNat digits, rest)

/-- A number written with at least `width` digits. -/
def padded (width n : Nat) : String :=
  let digits := Nat.toDigits 10 n
  String.ofList (List.replicate (width - digits.length) '0' ++ digits)

/-- Different numbers have different decimal digits. -/
theorem toDigits_inj {m n : Nat} (h : Nat.toDigits 10 m = Nat.toDigits 10 n) : m = n :=
  calc m = Nat.ofDigitChars 10 (Nat.toDigits 10 m) 0 := Nat.ofDigitChars_ten_toDigits.symm
    _ = Nat.ofDigitChars 10 (Nat.toDigits 10 n) 0 := by rw [h]
    _ = n := Nat.ofDigitChars_ten_toDigits

/-- The parts of a text before and after the number at its start are all of it. -/
theorem run_append (most : Nat) (s : List Char) : (run most s).1 ++ (run most s).2 = s := by
  induction most generalizing s with
  | zero => simp [run]
  | succ most ih =>
      cases s with
      | nil => simp [run]
      | cons c s =>
          by_cases h : c.isDigit
          · simp [run, h, ih]
          · simp [run, h]

end PageMigration.Digits
